import SentinelDB.GuardCommands

/-!
# Key patterns

`Guard::appliesTo` matches a key against a guard's pattern: `*` matches every key, a
pattern ending in `*` every key that starts with the rest, any other pattern only itself.
It reads `key.back()` before the wildcard test, and `std::string::back` requires a
non-empty string. The CLI's patterns are words, never empty; `POST /guards` takes
`keyPattern` from the body as it stands, `""` included.

`Guard.appliesTo?` and `getGuardsForKey?` keep that read as an outcome of its own, `none`:

* `appliesTo_eq_patternMatches`: the total model `Guard.appliesTo` is the pattern language;
* `getGuardsForKey?_eq`: the lookup is undefined exactly when an enabled guard has an empty
  pattern and the key is not empty, and is otherwise the enabled guards whose pattern
  matches, in registration order;
* `cliGuards_lookup_defined`: guard lists built by CLI `GUARD` commands never reach the
  undefined read; `empty_pattern_reads_before_string`: one `POST /guards` does.
-/

namespace SentinelDB

set_option autoImplicit false

/-- The key patterns as the specification states them: `*`, the key itself, or a pattern
ending in `*` whose rest is a prefix of the key. -/
def patternMatches (p k : String) : Bool :=
  p = "*" || p = k || (p.data.getLast? = some '*' && p.data.dropLast.isPrefixOf k.data)

namespace Guard

/-- `Guard::appliesTo`, with `key.back()` as `std::string::back` defines it: `none` where
the pattern is empty and the call reads before the string. -/
def appliesTo? (g : Guard) (targetKey : String) : Option Bool :=
  if g.key = "*" then some true
  else if g.key = targetKey then some true
  else
    match g.key.data.getLast? with
    | none => none
    | some c => some (if c = '*' then g.key.data.dropLast.isPrefixOf targetKey.data else false)

end Guard

/-- `KVStore::getGuardsForKey`, where `isEnabled() && appliesTo(key)` calls `appliesTo` on
the enabled guards only. -/
def getGuardsForKey? (key : String) : List Guard → Option (List Guard)
  | [] => some []
  | g :: gs =>
    if g.enabled then
      (g.appliesTo? key).bind fun b =>
        (getGuardsForKey? key gs).map fun rest => if b then g :: rest else rest
    else getGuardsForKey? key gs

/-! ### One guard -/

theorem eq_empty_of_getLast?_eq_none {s : String} (h : s.data.getLast? = none) : s = "" :=
  String.ext (List.getLast?_eq_none_iff.mp h)

theorem appliesTo_eq_patternMatches (g : Guard) (k : String) : g.appliesTo k = patternMatches g.key k := by
  unfold Guard.appliesTo patternMatches
  by_cases h1 : g.key = "*"
  · simp [h1]
  by_cases h2 : g.key = k
  · simp [h2]
  simp [h1, h2]

/-- `appliesTo` is undefined exactly on an empty pattern and a non-empty key, and
elsewhere matches as the pattern language does. -/
theorem appliesTo?_eq (g : Guard) (k : String) :
    g.appliesTo? k = if g.key = "" ∧ k ≠ "" then none else some (g.appliesTo k) := by
  rw [appliesTo_eq_patternMatches]
  unfold Guard.appliesTo? patternMatches
  by_cases h1 : g.key = "*"
  · simp [h1]
  by_cases h2 : g.key = k
  · subst h2; simp
  cases hl : g.key.data.getLast? with
  | none =>
    have h0 := eq_empty_of_getLast?_eq_none hl
    rw [h0] at h2 ⊢
    have hk : k ≠ "" := fun h => h2 h.symm
    simp [h2, hk]
  | some c =>
    have h0 : g.key ≠ "" := fun h => by simp [h] at hl
    by_cases hc : c = '*' <;> simp [h1, h2, h0, hc]

/-! ### The lookup -/

theorem getGuardsForKey_eq_filter (gs : List Guard) (k : String) :
    getGuardsForKey gs k = gs.filter fun g => g.enabled && patternMatches g.key k := by
  simp only [getGuardsForKey, appliesTo_eq_patternMatches]

/-- `getGuardsForKey` is undefined exactly when an enabled guard has an empty pattern and
the key is not empty; otherwise it returns the total model's list. -/
theorem getGuardsForKey?_eq (k : String) (gs : List Guard) :
    getGuardsForKey? k gs =
      if ∃ g ∈ gs, g.enabled ∧ g.key = "" ∧ k ≠ "" then none else some (getGuardsForKey gs k) := by
  induction gs with
  | nil => simp [getGuardsForKey?, getGuardsForKey]
  | cons g gs ih =>
    unfold getGuardsForKey?
    cases hen : g.enabled
    · simp [ih, getGuardsForKey, hen]
    · rw [appliesTo?_eq, ih]
      by_cases hbad : g.key = "" ∧ k ≠ ""
      · simp [hbad, hen]
      · by_cases hrest : ∃ g ∈ gs, g.enabled ∧ g.key = "" ∧ k ≠ ""
        · simp [hbad, hrest, hen]
        · have hall : ¬∃ g' ∈ g :: gs, g'.enabled ∧ g'.key = "" ∧ k ≠ "" := fun ⟨g', hg', h'⟩ => by
            rcases List.mem_cons.mp hg' with rfl | hg'
            · exact hbad h'.2
            · exact hrest ⟨g', hg', h'⟩
          rw [if_neg hbad, if_neg hrest, if_neg hall]
          cases happ : g.appliesTo k <;> simp [getGuardsForKey, List.filter_cons, hen, happ]

/-! ### What the handlers build -/

/-- No guard of the list has an empty pattern. -/
def PatternsNonEmpty (guards : List Guard) : Prop := ∀ g ∈ guards, g.key ≠ ""

theorem getGuardsForKey?_of_patternsNonEmpty {guards : List Guard} (h : PatternsNonEmpty guards)
    (k : String) : getGuardsForKey? k guards = some (getGuardsForKey guards k) := by
  rw [getGuardsForKey?_eq, if_neg]
  rintro ⟨g, hg, -, hempty, -⟩
  exact h g hg hempty

theorem PatternsNonEmpty.handleGuard {kv : KVStore} (h : PatternsNonEmpty kv.guards) {line : String}
    (htype : (CommandParser.parse line).type = .guard) :
    PatternsNonEmpty (RedisLikeCLI.handleGuard kv (CommandParser.parse line)).1.guards := by
  rcases RedisLikeCLI.handleGuard_cases kv (CommandParser.parse line) with
    hkv | ⟨g, message, hok, heq⟩ | ⟨name, kv', hrm, heq⟩
  · rw [hkv]; exact h
  · rw [heq]
    intro g' hg'
    rcases mem_addGuard hg' with hg' | rfl
    · exact h g' hg'
    · obtain ⟨hkey, hlen, -⟩ := RedisLikeCLI.addGuardCommand_inv hok
      have hmem : (CommandParser.parse line).args.getD 3 "" ∈ (CommandParser.parse line).args :=
        List.getD_eq_getElem _ "" (show 3 < (CommandParser.parse line).args.length by omega) ▸ List.getElem_mem _
      rw [hkey]
      exact (CommandParser.isToken_arg (by rw [htype]; decide) (by rw [htype]; decide) hmem).1
  · rw [heq]
    exact fun g' hg' => h g' (KVStore.mem_removeGuard (by rw [hrm]; exact hg'))

/-- Guard lists built by CLI `GUARD` commands never reach the undefined read: every lookup
returns the enabled guards matching the key, in registration order. -/
theorem cliGuards_lookup_defined (kv : KVStore) (hkv : kv.guards = []) (lines : List String)
    (hlines : ∀ line ∈ lines, (CommandParser.parse line).type = .guard) (k : String) :
    let guards := (lines.foldl (fun kv line => (RedisLikeCLI.handleGuard kv (CommandParser.parse line)).1) kv).guards
    getGuardsForKey? k guards = some (guards.filter fun g => g.enabled && patternMatches g.key k) := by
  intro guards
  rw [← getGuardsForKey_eq_filter]
  refine getGuardsForKey?_of_patternsNonEmpty ?_ k
  have hrun : ∀ (kv : KVStore), PatternsNonEmpty kv.guards → ∀ lines : List String,
      (∀ line ∈ lines, (CommandParser.parse line).type = .guard) →
      PatternsNonEmpty (lines.foldl (fun kv line => (RedisLikeCLI.handleGuard kv (CommandParser.parse line)).1) kv).guards := by
    intro kv h lines hlines
    induction lines generalizing kv with
    | nil => exact h
    | cons line lines ih =>
      exact ih _ (h.handleGuard (hlines line (List.mem_cons_self _ _)))
        fun l hl => hlines l (List.mem_cons_of_mem _ hl)
  exact hrun kv (by rw [hkv]; intro g hg; cases hg) lines hlines

/-- A prefix pattern registered by `GUARD ADD` applies to the keys it starts. -/
theorem cliGuards_lookup_defined_at_prefix :
    (KVStore.create {}).guards = [] ∧
    (∀ line ∈ ["GUARD ADD ENUM color c* red"], (CommandParser.parse line).type = .guard) ∧
    let guards := (["GUARD ADD ENUM color c* red"].foldl
      (fun kv line => (RedisLikeCLI.handleGuard kv (CommandParser.parse line)).1) (KVStore.create {})).guards
    getGuardsForKey? "car" guards = some (guards.filter fun g => g.enabled && patternMatches g.key "car") :=
  ⟨rfl, by decide, cliGuards_lookup_defined (KVStore.create {}) rfl _ (by decide) "car"⟩

set_option maxRecDepth 4000 in
/-- One `POST /guards` with an empty `keyPattern` is accepted, and the guard it adds makes
every lookup of a non-empty key read `key.back()` of the empty pattern. -/
theorem empty_pattern_reads_before_string :
    (HttpServer.postGuards (KVStore.create {})
        "\x7b\x22type\x22:\x22ENUM\x22,\x22name\x22:\x22g\x22,\x22keyPattern\x22:\x22\x22,\x22values\x22:\x22a\x22\x7d").2.status =
      200 ∧
    getGuardsForKey? "k" (HttpServer.postGuards (KVStore.create {})
        "\x7b\x22type\x22:\x22ENUM\x22,\x22name\x22:\x22g\x22,\x22keyPattern\x22:\x22\x22,\x22values\x22:\x22a\x22\x7d").1.guards =
      none := by
  decide

end SentinelDB
