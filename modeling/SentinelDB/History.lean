import SentinelDB.Text

/-!
# Versions, histories and retention

A key's history is the `std::vector<Version>` the store keeps for it, oldest first.
Timestamps are `system_clock` nanosecond counts; the WAL keeps only whole
milliseconds of them. `getAtTime` scans a history up to the first version later than
the query, and retention only ever removes a prefix of a history.
-/

namespace SentinelDB

set_option autoImplicit false

/-- A reading of `system_clock::now()`: signed 64-bit nanoseconds since the Unix epoch. -/
structure TimePoint where
  ns : Int
  ge_min : -2 ^ 63 ≤ ns
  lt_max : ns < 2 ^ 63

/-- `duration_cast<milliseconds>(t.time_since_epoch()).count()`, which truncates toward zero. -/
def toMillis (t : Int) : Int := t.tdiv 1000000

/-- `time_point(milliseconds(ms))`. -/
def fromMillis (ms : Int) : Int := ms * 1000000

/-- A time point as it comes back from the WAL. -/
def truncMillis (t : Int) : Int := fromMillis (toMillis t)

structure Version where
  timestamp : Int
  value : String
  deriving DecidableEq, Repr

/-- The loop of `KVStore::getAtTime`: the value of each version up to the first after `T`. -/
def scanAtTime (T : Int) : List Version → Option String → Option String
  | [], result => result
  | v :: vs, result => if v.timestamp ≤ T then scanAtTime T vs (some v.value) else result

/-- Timestamps never decrease along the history. -/
def Chronological (vs : List Version) : Prop := vs.Pairwise fun a b => a.timestamp ≤ b.timestamp

instance : DecidablePred Chronological := fun vs =>
  inferInstanceAs (Decidable (vs.Pairwise _))

inductive RetentionMode where
  | full
  | lastN
  | lastT
  deriving DecidableEq, Repr

structure RetentionPolicy where
  mode : RetentionMode := .full
  count : Int := 0
  seconds : Int := 0
  deriving DecidableEq, Repr

/-- `RetentionPolicy(m, val)`: the value lands in the field the mode reads. -/
def RetentionPolicy.make (m : RetentionMode) (val : Int) : RetentionPolicy :=
  ⟨m, if m = .lastN then val else 0, if m = .lastT then val else 0⟩

/-- `now - std::chrono::seconds(s)`. -/
def cutoff (now seconds : Int) : Int := now - seconds * 1000000000

/-- What `KVStore::applyRetention` leaves of a history at clock reading `now`. -/
def retain (policy : RetentionPolicy) (now : Int) (versions : List Version) : List Version :=
  match policy.mode with
  | .full => versions
  | .lastN =>
    if 0 < policy.count ∧ policy.count.toNat < versions.length then
      versions.drop (versions.length - policy.count.toNat)
    else versions
  | .lastT =>
    if 0 < policy.seconds then
      versions.dropWhile fun v => decide (v.timestamp < cutoff now policy.seconds)
    else versions

/-! ### Milliseconds -/

theorem toMillis_eq (t : Int) :
    toMillis t = if 0 ≤ t then t / 1000000 else -((-t) / 1000000) := by
  unfold toMillis
  split
  · exact Int.tdiv_eq_ediv ‹_› (by decide)
  · rw [← Int.neg_neg t, Int.neg_tdiv, Int.tdiv_eq_ediv (by omega) (by decide), Int.neg_neg]

@[simp] theorem toMillis_fromMillis (ms : Int) : toMillis (fromMillis ms) = ms := by
  simp [toMillis, fromMillis, Int.mul_tdiv_cancel]

theorem truncMillis_le {t : Int} (ht : 0 ≤ t) : truncMillis t ≤ t := by
  simp only [truncMillis, fromMillis, toMillis_eq, ht, ↓reduceIte]
  omega

theorem truncMillis_mono {a b : Int} (h : a ≤ b) : truncMillis a ≤ truncMillis b := by
  simp only [truncMillis, fromMillis, toMillis_eq]
  split <;> split <;> omega

@[simp] theorem truncMillis_fromMillis (ms : Int) : truncMillis (fromMillis ms) = fromMillis ms := by
  simp [truncMillis]

/-- Truncation keeps each version on its side of a whole-millisecond instant `T`,
unless the version lies strictly inside the millisecond after `T`. -/
theorem truncMillis_le_iff {t T : Int} (hT : T % 1000000 = 0)
    (hout : ¬ (T < t ∧ t < T + 1000000)) : truncMillis t ≤ T ↔ t ≤ T := by
  simp only [truncMillis, fromMillis, toMillis_eq]
  split <;> omega

/-! ### Time-travel scan -/

/-- The value of the last version at or before `T`, if any. -/
def lastAtOrBefore (T : Int) (vs : List Version) : Option String :=
  ((vs.filter fun v => decide (v.timestamp ≤ T)).getLast?).map Version.value

theorem scanAtTime_eq_of_chronological {T : Int} {vs : List Version} (h : Chronological vs)
    (result : Option String) :
    scanAtTime T vs result = (lastAtOrBefore T vs).or result := by
  induction vs generalizing result with
  | nil => simp [scanAtTime, lastAtOrBefore]
  | cons v vs ih =>
    obtain ⟨hv, hvs⟩ := List.pairwise_cons.mp h
    simp only [scanAtTime]
    split
    · rename_i hle
      rw [ih hvs]
      cases hf : (vs.filter fun w => decide (w.timestamp ≤ T)).getLast? with
      | none => simp [lastAtOrBefore, hle, hf, List.getLast?_cons]
      | some w => simp [lastAtOrBefore, hle, hf, List.getLast?_cons]
    · rename_i hgt
      have hnone : vs.filter (fun w => decide (w.timestamp ≤ T)) = [] :=
        List.filter_eq_nil_iff.mpr fun w hw => by have := hv w hw; simp; omega
      simp [lastAtOrBefore, hgt, hnone]

theorem scanAtTime_congr {T : Int} (f : Int → Int) {vs : List Version}
    (h : ∀ v ∈ vs, f v.timestamp ≤ T ↔ v.timestamp ≤ T) (result : Option String) :
    scanAtTime T (vs.map fun v => ⟨f v.timestamp, v.value⟩) result = scanAtTime T vs result := by
  induction vs generalizing result with
  | nil => rfl
  | cons v vs ih =>
    simp only [List.map_cons, scanAtTime, h v (List.mem_cons_self v vs)]
    split
    · exact ih (fun w hw => h w (List.mem_cons_of_mem v hw)) _
    · rfl

/-! ### Retention -/

@[simp] theorem retain_default (now : Int) (vs : List Version) : retain {} now vs = vs := rfl

@[simp] theorem retain_nil (policy : RetentionPolicy) (now : Int) : retain policy now [] = [] := by
  unfold retain; split <;> simp

theorem retain_suffix (policy : RetentionPolicy) (now : Int) (vs : List Version) :
    retain policy now vs <:+ vs := by
  unfold retain
  split
  · exact List.suffix_refl vs
  · split
    · exact List.drop_suffix _ vs
    · exact List.suffix_refl vs
  · split
    · exact List.dropWhile_suffix _
    · exact List.suffix_refl vs

theorem Chronological.retain {vs : List Version} (h : Chronological vs)
    (policy : RetentionPolicy) (now : Int) : Chronological (retain policy now vs) :=
  h.sublist (retain_suffix policy now vs).sublist

theorem retain_lastN (policy : RetentionPolicy) (now : Int) (vs : List Version)
    (hmode : policy.mode = .lastN) (hn : 0 < policy.count) :
    retain policy now vs = vs.drop (vs.length - policy.count.toNat) := by
  simp only [retain, hmode]
  split
  · rfl
  · rw [Nat.sub_eq_zero_of_le (by omega), List.drop_zero]

theorem retain_lastT (policy : RetentionPolicy) (now : Int) (vs : List Version)
    (hmode : policy.mode = .lastT) (hs : 0 < policy.seconds) :
    retain policy now vs =
      vs.dropWhile fun v => decide (v.timestamp < cutoff now policy.seconds) := by
  simp [retain, hmode, hs]

theorem cutoff_le_of_mem_dropWhile {c : Int} {vs : List Version} (h : Chronological vs) {v : Version}
    (hv : v ∈ vs.dropWhile fun w => decide (w.timestamp < c)) : c ≤ v.timestamp := by
  induction vs with
  | nil => simp at hv
  | cons w ws ih =>
    obtain ⟨hw, hws⟩ := List.pairwise_cons.mp h
    simp only [List.dropWhile_cons] at hv
    split at hv
    · exact ih hws hv
    · rename_i hlt
      simp only [decide_eq_true_eq, not_lt] at hlt
      rcases List.mem_cons.mp hv with rfl | hv
      · exact hlt
      · exact le_trans hlt (hw v hv)

theorem getLast?_retain {policy : RetentionPolicy} {now : Int} {vs : List Version} {v : Version}
    (hlast : vs.getLast? = some v)
    (hkeep : policy.mode = .lastT → 0 < policy.seconds → cutoff now policy.seconds ≤ v.timestamp) :
    (retain policy now vs).getLast? = some v := by
  obtain ⟨pre, rfl⟩ := List.getLast?_eq_some_iff.mp hlast
  unfold retain
  split
  · exact hlast
  · split
    · rw [List.drop_append_of_le_length (by simp; omega)]
      simp
    · exact hlast
  · rename_i hmode
    split
    · rename_i hs
      have hv : ¬ (v.timestamp < cutoff now policy.seconds) := not_lt.mpr (hkeep hmode hs)
      rw [List.dropWhile_append]
      split
      · simp [List.dropWhile_cons, hv]
      · simp
    · exact hlast

end SentinelDB
