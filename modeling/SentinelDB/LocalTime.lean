import SentinelDB.Timestamps
import Mathlib.Data.Nat.Digits

/-!
# The C library's local time

`formatTimestamp` and both `parseTimestamp`s go through the C library's calendar:
`localtime` and `put_time` to print, `get_time` and `mktime` to read back. `Calendar`
leaves them abstract; this module says what they compute in a host time zone, so that a
statement over every zone is a statement over every `Calendar` that realizes one.

* The proleptic Gregorian calendar in which POSIX counts seconds since the epoch:
  `civilFromDays` splits a day count into 400-year eras, centuries, four-year cycles and
  years counted from March, as musl's `__secs_to_tm` does, and `daysFromCivil` counts the
  days back (`civilFromDays_spec`).
* `"%Y-%m-%d %H:%M:%S"`, printed by `putTimeFormat` and read by `getTimeFormat` under
  POSIX `strptime`'s rules, which reads back every broken-down time whose fields are in
  range (`getTimeFormat_putTimeFormat`).
* A `Zone`: a standard and a daylight offset, each within a day of UTC, and the instants
  at which daylight time is in effect. `Calendar.Realizes` says that a calendar computes
  as the C library does in the zone: `mktime` with `tm_isdst = 0` presumes standard time,
  and with `tm_isdst = -1` finds the instant whenever only one has the local time asked.
* `PosixTz`: a `TZ` value with `Mm.w.d` rules, such as `EST5EDT,M3.2.0,M11.1.0`.
-/

namespace SentinelDB

set_option autoImplicit false

/-! ### The proleptic Gregorian calendar -/

/-- Days before year `yoe` of an era of 400 years counted from 1 March. -/
def daysBeforeYear (yoe : Int) : Int := 365 * yoe + yoe / 4 - yoe / 100

/-- Days from 1 March to the first of month `mp`, counted from March. -/
def daysBeforeMonth (mp : Int) : Int := (153 * mp + 2) / 5

/-- The year of the era and the day of that year of day `doe` of an era: centuries of
36524 days but the last, four-year cycles of 1461 days, years of 365 days but the last. -/
def yearOfEra (doe : Int) : Int × Int :=
  let c := min (doe / 36524) 3
  let doc := doe - 36524 * c
  let yy := min (doc % 1461 / 365) 3
  (100 * c + 4 * (doc / 1461) + yy, doc % 1461 - 365 * yy)

/-- The month counted from March and the day of month of day `doy` of a March-based year. -/
def monthOfYear (doy : Int) : Int × Int :=
  let mp := (5 * doy + 2) / 153
  (mp, doy - daysBeforeMonth mp + 1)

/-- Year, month `1..12` and day of day `z` since 1970-01-01. -/
def civilFromDays (z : Int) : Int × Int × Int :=
  let (yoe, doy) := yearOfEra ((z + 719468) % 146097)
  let (mp, d) := monthOfYear doy
  let m := if mp < 10 then mp + 3 else mp - 9
  let y := 400 * ((z + 719468) / 146097) + yoe
  (if m ≤ 2 then y + 1 else y, m, d)

/-- Days since 1970-01-01 of day `d` of month `m` of year `y`; the day counts on past the
end of the month. -/
def daysFromCivil (y m d : Int) : Int :=
  let y := if m ≤ 2 then y - 1 else y
  let mp := if m > 2 then m - 3 else m + 9
  146097 * (y / 400) + daysBeforeYear (y % 400) + daysBeforeMonth mp + d - 1 - 719468

example : civilFromDays 0 = (1970, 1, 1) ∧ civilFromDays 11016 = (2000, 2, 29) ∧
    daysFromCivil 2024 7 1 = 19905 := by decide

theorem daysBeforeYear_cycles (c : Int) {q yy : Int} (hq : 0 ≤ q ∧ q ≤ 24) (hy : 0 ≤ yy ∧ yy ≤ 3) :
    daysBeforeYear (100 * c + 4 * q + yy) = 36524 * c + 1461 * q + 365 * yy := by
  unfold daysBeforeYear
  omega

theorem yearOfEra_spec {doe : Int} (h0 : 0 ≤ doe) (h1 : doe < 146097) :
    0 ≤ (yearOfEra doe).1 ∧ (yearOfEra doe).1 < 400 ∧ 0 ≤ (yearOfEra doe).2 ∧ (yearOfEra doe).2 ≤ 365 ∧
      daysBeforeYear (yearOfEra doe).1 + (yearOfEra doe).2 = doe := by
  simp only [yearOfEra]
  generalize hc : min (doe / 36524) 3 = c
  have hc' : 0 ≤ c ∧ c ≤ 3 ∧ 0 ≤ doe - 36524 * c ∧ doe - 36524 * c ≤ 36524 := by omega
  generalize hdoc : doe - 36524 * c = doc at *
  have hq := Int.ediv_add_emod doc 1461
  have hq' : 0 ≤ doc / 1461 ∧ doc / 1461 ≤ 24 ∧ 0 ≤ doc % 1461 ∧ doc % 1461 < 1461 := by omega
  generalize doc / 1461 = q at *
  generalize doc % 1461 = doq at *
  generalize hy : min (doq / 365) 3 = yy
  have hy' : 0 ≤ yy ∧ yy ≤ 3 ∧ 0 ≤ doq - 365 * yy ∧ doq - 365 * yy ≤ 365 := by omega
  rw [daysBeforeYear_cycles c ⟨hq'.1, hq'.2.1⟩ ⟨hy'.1, hy'.2.1⟩]
  omega

theorem monthOfYear_spec {doy : Int} (h0 : 0 ≤ doy) (h1 : doy ≤ 365) :
    0 ≤ (monthOfYear doy).1 ∧ (monthOfYear doy).1 < 12 ∧ 1 ≤ (monthOfYear doy).2 ∧
      (monthOfYear doy).2 ≤ 31 ∧ daysBeforeMonth (monthOfYear doy).1 + (monthOfYear doy).2 - 1 = doy := by
  simp only [monthOfYear, daysBeforeMonth]
  omega

/-- The parts of a date `civilFromDays` returns: the month and day in range, the year in
the era of the day, and the day count they name. -/
theorem civilFromDays_spec (z : Int) :
    1 ≤ (civilFromDays z).2.1 ∧ (civilFromDays z).2.1 ≤ 12 ∧ 1 ≤ (civilFromDays z).2.2 ∧
      (civilFromDays z).2.2 ≤ 31 ∧ 400 * ((z + 719468) / 146097) ≤ (civilFromDays z).1 ∧
      (civilFromDays z).1 ≤ 400 * ((z + 719468) / 146097) + 400 ∧
      daysFromCivil (civilFromDays z).1 (civilFromDays z).2.1 (civilFromDays z).2.2 = z := by
  obtain ⟨hy0, hy1, hd0, hd1, hyear⟩ :=
    yearOfEra_spec (Int.emod_nonneg (z + 719468) (by decide)) (Int.emod_lt_of_pos (z + 719468) (by decide))
  have hdiv := Int.ediv_add_emod (z + 719468) 146097
  unfold civilFromDays
  generalize yearOfEra ((z + 719468) % 146097) = p at *
  obtain ⟨yoe, doy⟩ := p
  dsimp only at *
  obtain ⟨hm0, hm1, hday0, hday1, hmonth⟩ := monthOfYear_spec hd0 hd1
  generalize monthOfYear doy = q at *
  obtain ⟨mp, d⟩ := q
  dsimp only at *
  generalize (z + 719468) / 146097 = era at *
  generalize (z + 719468) % 146097 = doe at *
  have hdiv : (400 * era + yoe) / 400 = era ∧ (400 * era + yoe) % 400 = yoe := by omega
  unfold daysFromCivil
  dsimp only
  by_cases hmp : mp < 10
  · simp only [if_pos hmp, if_neg (by omega : ¬mp + 3 ≤ 2), if_pos (by omega : mp + 3 > 2),
      add_sub_cancel_right, hdiv]
    omega
  · simp only [if_neg hmp, if_pos (by omega : mp - 9 ≤ 2), if_neg (by omega : ¬mp - 9 > 2),
      add_sub_cancel_right, sub_add_cancel, hdiv]
    omega

/-! ### Broken-down time -/

/-- `gmtime`: the broken-down time `secs` seconds after the epoch, `tm_year` from 1900. -/
def breakDown (secs : Int) : Tm :=
  let (y, m, d) := civilFromDays (secs / 86400)
  let rem := secs % 86400
  { year := y - 1900, mon := m - 1, mday := d, hour := rem / 3600, min := rem % 3600 / 60, sec := rem % 60 }

/-- The seconds since the epoch `mktime` counts before it applies the zone; every field counts
on past its range. -/
def Tm.seconds (tm : Tm) : Int :=
  daysFromCivil (tm.year + 1900 + tm.mon / 12) (tm.mon % 12 + 1) tm.mday * 86400 +
    tm.hour * 3600 + tm.min * 60 + tm.sec

/-- The fields `"%Y-%m-%d %H:%M:%S"` prints and reads back: a four-digit year and every
other field within the range `strptime` reads. -/
structure Tm.InRange (tm : Tm) : Prop where
  year : 1000 ≤ tm.year + 1900 ∧ tm.year + 1900 ≤ 9999
  mon : 0 ≤ tm.mon ∧ tm.mon ≤ 11
  mday : 1 ≤ tm.mday ∧ tm.mday ≤ 31
  hour : 0 ≤ tm.hour ∧ tm.hour ≤ 23
  min : 0 ≤ tm.min ∧ tm.min ≤ 59
  sec : 0 ≤ tm.sec ∧ tm.sec ≤ 59

theorem seconds_breakDown (secs : Int) : (breakDown secs).seconds = secs := by
  obtain ⟨hm0, hm1, -, -, -, -, hdays⟩ := civilFromDays_spec (secs / 86400)
  unfold breakDown
  generalize civilFromDays (secs / 86400) = p at *
  obtain ⟨y, m, d⟩ := p
  dsimp only at *
  unfold Tm.seconds
  dsimp only
  rw [show y - 1900 + 1900 + (m - 1) / 12 = y by omega, show (m - 1) % 12 + 1 = m by omega, hdays]
  omega

/-- Every second within a day of a clock reading at or after the epoch, and before the
year 2286, breaks down into fields `"%Y-%m-%d %H:%M:%S"` reads back. -/
theorem breakDown_inRange {secs : Int} (h0 : -86400 < secs) (h1 : secs < 10 ^ 10) :
    (breakDown secs).InRange := by
  obtain ⟨hm0, hm1, hd0, hd1, hy0, hy1, -⟩ := civilFromDays_spec (secs / 86400)
  have hera : 4 ≤ (secs / 86400 + 719468) / 146097 ∧ (secs / 86400 + 719468) / 146097 ≤ 5 := by omega
  unfold breakDown
  generalize civilFromDays (secs / 86400) = p at *
  obtain ⟨y, m, d⟩ := p
  dsimp only at *
  refine ⟨?_, ?_, ?_, ?_, ?_, ?_⟩ <;> dsimp only <;> omega

/-! ### `"%Y-%m-%d %H:%M:%S"` -/

/-- A field in two digits, `setw(2)` and `setfill('0')` as `strftime` prints it. -/
def pad2 (n : Int) : String := String.leftpad 2 '0' (toString n)

/-- `std::put_time(&tm, "%Y-%m-%d %H:%M:%S")`: the year in decimal, other fields in two digits. -/
def putTimeFormat (tm : Tm) : String :=
  toString (tm.year + 1900) ++ "-" ++ pad2 (tm.mon + 1) ++ "-" ++ pad2 tm.mday ++ " " ++
    pad2 tm.hour ++ ":" ++ pad2 tm.min ++ ":" ++ pad2 tm.sec

/-- The loop of `strptime`'s `get_number` after the first digit: at most `n` digits more,
each while the value times ten stays within `hi`. -/
def getDigits (hi : Nat) : Nat → Nat → List Char → Nat × List Char
  | 0, v, cs => (v, cs)
  | _ + 1, v, [] => (v, [])
  | n + 1, v, c :: cs =>
    if c.isDigit = true ∧ v * 10 ≤ hi then getDigits hi n (10 * v + (c.toNat - '0'.toNat)) cs
    else (v, c :: cs)

/-- `get_number (lo, hi, n)` of POSIX `strptime` as glibc writes it: blanks, a digit and
at most `n - 1` digits more, and a value within `[lo, hi]`. -/
def getNumber (lo hi n : Nat) (cs : List Char) : Option (Nat × List Char) :=
  match cs.dropWhile isSpace with
  | c :: rest =>
    if c.isDigit then
      let (v, rest) := getDigits hi (n - 1) (c.toNat - '0'.toNat) rest
      if lo ≤ v ∧ v ≤ hi then some (v, rest) else none
    else none
  | [] => none

/-- A numeric conversion of the format, stored by `set`; the stream fails when none is read. -/
def getField (lo hi n : Nat) (set : Tm → Int → Tm) : Tm × Option (List Char) → Tm × Option (List Char)
  | (tm, none) => (tm, none)
  | (tm, some cs) =>
    match getNumber lo hi n cs with
    | some (v, rest) => (set tm v, some rest)
    | none => (tm, none)

/-- A character of the format other than a blank, which the input must repeat. -/
def getLit (c : Char) : Tm × Option (List Char) → Tm × Option (List Char)
  | (tm, some (c' :: cs)) => if c' = c then (tm, some cs) else (tm, none)
  | (tm, _) => (tm, none)

/-- A blank of the format, which takes every blank of the input. -/
def getBlanks : Tm × Option (List Char) → Tm × Option (List Char)
  | (tm, some cs) => (tm, some (cs.dropWhile isSpace))
  | (tm, none) => (tm, none)

/-- `is >> std::get_time(&tm, "%Y-%m-%d %H:%M:%S")` from `tm = {}` under POSIX `strptime`. -/
def getTimeFormat (cs : List Char) : Tm × Option (List Char) :=
  (({} : Tm), some cs)
    |> getField 0 9999 4 (fun tm v => { tm with year := v - 1900 })
    |> getLit '-'
    |> getField 1 12 2 (fun tm v => { tm with mon := v - 1 })
    |> getLit '-'
    |> getField 1 31 2 (fun tm v => { tm with mday := v })
    |> getBlanks
    |> getField 0 23 2 (fun tm v => { tm with hour := v })
    |> getLit ':'
    |> getField 0 59 2 (fun tm v => { tm with min := v })
    |> getLit ':'
    |> getField 0 61 2 (fun tm v => { tm with sec := v })

/-! ### Reading back what `put_time` prints -/

theorem le_foldl_digits (ds : List Char) (v : Nat) :
    v ≤ ds.foldl (fun n c => 10 * n + (c.toNat - '0'.toNat)) v := by
  induction ds generalizing v with
  | nil => exact le_rfl
  | cons c ds ih => exact le_trans (show v ≤ 10 * v + (c.toNat - '0'.toNat) by omega) (ih _)

theorem getDigits_append {hi : Nat} {ds rest : List Char} (hd : ∀ c ∈ ds, c.isDigit = true) {k v : Nat}
    (hk : ds.length ≤ k) (hstop : ds.length = k ∨ ∀ c ∈ rest.head?, c.isDigit = false)
    (hhi : ds.foldl (fun n c => 10 * n + (c.toNat - '0'.toNat)) v ≤ hi) :
    getDigits hi k v (ds ++ rest) = (ds.foldl (fun n c => 10 * n + (c.toNat - '0'.toNat)) v, rest) := by
  induction ds generalizing k v with
  | nil =>
    match k, rest with
    | 0, _ => rfl
    | _ + 1, [] => rfl
    | _ + 1, c :: rest =>
      have hc : c.isDigit = false := hstop.resolve_left (by simp) c rfl
      simp [getDigits, hc]
  | cons c ds ih =>
    obtain ⟨k, rfl⟩ : ∃ k', k = k' + 1 := ⟨k - 1, by simp at hk; omega⟩
    have hv : v * 10 ≤ hi :=
      le_trans (show v * 10 ≤ 10 * v + (c.toNat - '0'.toNat) by omega) (le_trans (le_foldl_digits ds _) hhi)
    rw [List.cons_append, getDigits, if_pos ⟨hd c (List.mem_cons_self c ds), hv⟩]
    exact ih (fun c' h => hd c' (List.mem_cons_of_mem c h)) (by simp at hk; omega)
      (hstop.imp (by simp) id) hhi

theorem getNumber_append {lo hi n v : Nat} {ds rest : List Char} (hd : ∀ c ∈ ds, c.isDigit = true)
    (hne : ds ≠ []) (hn : ds.length ≤ n) (hstop : ds.length = n ∨ ∀ c ∈ rest.head?, c.isDigit = false)
    (hv : digitsValue ds = v) (hlo : lo ≤ v) (hhi : v ≤ hi) :
    getNumber lo hi n (ds ++ rest) = some (v, rest) := by
  obtain ⟨c, ds, rfl⟩ := List.exists_cons_of_ne_nil hne
  have hc := hd c (List.mem_cons_self c ds)
  have hval : ds.foldl (fun n c => 10 * n + (c.toNat - '0'.toNat)) (c.toNat - '0'.toNat) = v := by
    rw [← hv]
    simp only [digitsValue, List.foldl_cons, Nat.mul_zero, Nat.zero_add]
  unfold getNumber
  rw [List.cons_append, List.dropWhile_cons_of_neg (by simp [isSpace_of_isDigit hc])]
  dsimp only
  rw [if_pos hc, getDigits_append (fun c' h => hd c' (List.mem_cons_of_mem c h)) (by simp at hn; omega)
    (hstop.imp (fun h => by simp at h; omega) id) (hval ▸ hhi), hval]
  dsimp only
  rw [if_pos ⟨hlo, hhi⟩]

theorem digitsValue_zeros (k : Nat) (ds : List Char) :
    digitsValue (List.replicate k '0' ++ ds) = digitsValue ds := by
  induction k with
  | zero => rfl
  | succ k ih => simpa only [digitsValue, List.replicate_succ, List.cons_append, List.foldl_cons] using ih

theorem leftpad_data {w : Nat} (hw : 0 < w) {v : Int} (h0 : 0 ≤ v) (h1 : v < 10 ^ w) :
    (∀ c ∈ (String.leftpad w '0' (toString v)).data, c.isDigit = true) ∧
      (String.leftpad w '0' (toString v)).data.length = w ∧
      digitsValue (String.leftpad w '0' (toString v)).data = v.toNat := by
  obtain ⟨n, rfl⟩ := Int.eq_ofNat_of_zero_le h0
  obtain ⟨hdig, hval, hne⟩ := toDigits_spec n
  have hlen : (Nat.toDigits 10 n).length ≤ w :=
    Nat.toDigitsCore_length 10 (by decide) (n + 1) n w (by exact_mod_cast h1) hw
  have hs : (String.leftpad w '0' (toString (n : Int))).data =
      List.replicate (w - (Nat.toDigits 10 n).length) '0' ++ Nat.toDigits 10 n := rfl
  rw [hs, digitsValue_zeros, hval, Int.toNat_ofNat]
  refine ⟨fun c hc => ?_, by simp; omega, rfl⟩
  rcases List.mem_append.mp hc with hc | hc
  · rw [List.eq_of_mem_replicate hc]; rfl
  · exact hdig c hc

theorem getNumber_pad2 {lo hi : Nat} {v : Int} (h0 : 0 ≤ v) (h1 : v < 100) (hlo : lo ≤ v) (hhi : v ≤ hi)
    (rest : List Char) : getNumber lo hi 2 ((pad2 v).data ++ rest) = some (v.toNat, rest) := by
  obtain ⟨hdig, hlen, hval⟩ := leftpad_data (w := 2) (by decide) h0 (by omega)
  unfold pad2
  exact getNumber_append hdig (fun h => by simp [h] at hlen) hlen.le (.inl hlen) hval (by omega) (by omega)

theorem head_dash_not_digit (rest : List Char) : ∀ c ∈ ('-' :: rest).head?, c.isDigit = false := by
  intro c hc
  simp only [List.head?_cons, Option.mem_def, Option.some.injEq] at hc
  subst hc
  rfl

theorem getNumber_year {y : Int} (h0 : 1000 ≤ y) (h1 : y ≤ 9999) (rest : List Char) :
    getNumber 0 9999 4 ((toString y).data ++ '-' :: rest) = some (y.toNat, '-' :: rest) := by
  obtain ⟨n, rfl⟩ := Int.eq_ofNat_of_zero_le (by omega : 0 ≤ y)
  obtain ⟨hdig, hval, hne⟩ := toDigits_spec n
  have hlen : (Nat.toDigits 10 n).length ≤ 4 :=
    Nat.toDigitsCore_length 10 (by decide) (n + 1) n 4 (by omega) (by decide)
  have hs : (toString (n : Int)).data = Nat.toDigits 10 n := rfl
  rw [hs, Int.toNat_ofNat]
  exact getNumber_append hdig hne hlen (.inr (head_dash_not_digit rest)) hval (Nat.zero_le _) (by omega)

theorem getField_some {lo hi n : Nat} {set : Tm → Int → Tm} {tm : Tm} {cs rest : List Char} {v : Nat}
    (h : getNumber lo hi n cs = some (v, rest)) : getField lo hi n set (tm, some cs) = (set tm v, some rest) := by
  simp only [getField, h]

theorem getLit_cons (c : Char) (tm : Tm) (cs : List Char) : getLit c (tm, some (c :: cs)) = (tm, some cs) := by
  simp [getLit]

theorem getBlanks_pad2 {v : Int} (h0 : 0 ≤ v) (h1 : v < 100) (tm : Tm) (rest : List Char) :
    getBlanks (tm, some (' ' :: ((pad2 v).data ++ rest))) = (tm, some ((pad2 v).data ++ rest)) := by
  obtain ⟨hdig, hlen, -⟩ := leftpad_data (w := 2) (by decide) h0 (by omega)
  unfold pad2
  generalize (String.leftpad 2 '0' (toString v)).data = ds at *
  obtain ⟨c, ds, rfl⟩ := List.exists_cons_of_ne_nil (fun h => by simp [h] at hlen : ds ≠ [])
  have hc : isSpace c = false := isSpace_of_isDigit (hdig c (List.mem_cons_self c ds))
  simp only [getBlanks, List.cons_append, List.dropWhile_cons, hc, show isSpace ' ' = true from rfl,
    if_true, Bool.false_eq_true, if_false]

/-- `get_time` reads back every in-range time `put_time` prints, and stops right after it. -/
theorem getTimeFormat_putTimeFormat {tm : Tm} (h : tm.InRange) (rest : List Char) :
    getTimeFormat ((putTimeFormat tm).data ++ rest) = (tm, some rest) := by
  obtain ⟨⟨y0, y1⟩, ⟨m0, m1⟩, ⟨d0, d1⟩, ⟨h0, h1⟩, ⟨i0, i1⟩, ⟨s0, s1⟩⟩ := h
  simp only [putTimeFormat, String.data_append, List.append_assoc, show "-".data = ['-'] from rfl,
    show " ".data = [' '] from rfl, show ":".data = [':'] from rfl, List.singleton_append, List.cons_append,
    List.nil_append]
  unfold getTimeFormat
  rw [getField_some (getNumber_year y0 y1 _), getLit_cons,
    getField_some (getNumber_pad2 (by omega) (by omega) (by omega : ((1 : Nat) : Int) ≤ tm.mon + 1)
      (by omega : tm.mon + 1 ≤ ((12 : Nat) : Int)) _), getLit_cons,
    getField_some (getNumber_pad2 (by omega) (by omega) (by omega : ((1 : Nat) : Int) ≤ tm.mday)
      (by omega : tm.mday ≤ ((31 : Nat) : Int)) _), getBlanks_pad2 (by omega) (by omega),
    getField_some (getNumber_pad2 h0 (by omega) (by omega : ((0 : Nat) : Int) ≤ tm.hour)
      (by omega : tm.hour ≤ ((23 : Nat) : Int)) _), getLit_cons,
    getField_some (getNumber_pad2 i0 (by omega) (by omega : ((0 : Nat) : Int) ≤ tm.min)
      (by omega : tm.min ≤ ((59 : Nat) : Int)) _), getLit_cons,
    getField_some (getNumber_pad2 s0 (by omega) (by omega : ((0 : Nat) : Int) ≤ tm.sec)
      (by omega : tm.sec ≤ ((61 : Nat) : Int)) rest)]
  obtain ⟨year, mon, mday, hour, min, sec⟩ := tm
  dsimp only at *
  simp only [Prod.mk.injEq, Tm.mk.injEq, and_true]
  omega

/-! ### Time zones -/

/-- A host time zone as the C library applies it: the offsets east of UTC of standard and
of daylight time, each within a day, and the instants at which daylight time is in effect. -/
structure Zone where
  stdOffset : Int
  dstOffset : Int
  inDst : Int → Bool
  stdOffset_lt : -86400 < stdOffset ∧ stdOffset < 86400
  dstOffset_lt : -86400 < dstOffset ∧ dstOffset < 86400

namespace Zone

/-- `TZ=UTC`. -/
def utc : Zone := ⟨0, 0, fun _ => false, by decide, by decide⟩

/-- The offset east of UTC in effect at instant `t`. -/
def utcOffset (z : Zone) (t : Int) : Int := if z.inDst t then z.dstOffset else z.stdOffset

theorem utcOffset_lt (z : Zone) (t : Int) : -86400 < z.utcOffset t ∧ z.utcOffset t < 86400 := by
  unfold utcOffset
  split
  exacts [z.dstOffset_lt, z.stdOffset_lt]

theorem utcOffset_of_no_dst {z : Zone} (hz : ∀ t, z.inDst t = false) (t : Int) : z.utcOffset t = z.stdOffset := by
  rw [utcOffset, hz]
  rfl

/-- `localtime(&t)`. -/
def localtime (z : Zone) (t : Int) : Tm := breakDown (t + z.utcOffset t)

/-- `mktime(&tm)`: standard time for `tm_isdst = 0`, daylight time above, and for `-1` the instant
with that local time, in a repeated or skipped hour the standard-time one, as glibc takes. -/
def mktime (z : Zone) (tm : Tm) (isdst : Int) : Int :=
  if isdst = 0 then tm.seconds - z.stdOffset
  else if 0 < isdst then tm.seconds - z.dstOffset
  else if z.inDst (tm.seconds - z.stdOffset) && z.inDst (tm.seconds - z.dstOffset) then tm.seconds - z.dstOffset
  else tm.seconds - z.stdOffset

/-- A C library in the zone: `get_time` and `put_time` as POSIX `strptime` and `strftime`. -/
def calendar (z : Zone) : Calendar := ⟨getTimeFormat, z.mktime, fun t => putTimeFormat (z.localtime t)⟩

end Zone

/-- `cal` prints, reads and counts local time as the C library does in zone `z`. -/
structure Calendar.Realizes (cal : Calendar) (z : Zone) : Prop where
  getTime : ∀ cs, cal.getTime cs = getTimeFormat cs
  putTime : ∀ t, cal.putTime t = putTimeFormat (z.localtime t)
  mktime_std : ∀ tm, cal.mktime tm 0 = tm.seconds - z.stdOffset
  mktime_unique : ∀ tm t, t + z.utcOffset t = tm.seconds →
    (∀ t', t' + z.utcOffset t' = tm.seconds → t' = t) → cal.mktime tm (-1) = t

theorem Zone.calendar_realizes (z : Zone) : z.calendar.Realizes z where
  getTime _ := by dsimp only [Zone.calendar]
  putTime _ := by dsimp only [Zone.calendar]
  mktime_std tm := by
    show z.mktime tm 0 = _
    unfold Zone.mktime
    rw [if_pos rfl]
  mktime_unique tm t ht huniq := by
    show z.mktime tm (-1) = t
    unfold Zone.mktime
    rw [if_neg (by decide), if_neg (by decide)]
    have hstd (h : z.inDst (tm.seconds - z.stdOffset) = false) : tm.seconds - z.stdOffset = t :=
      huniq _ (by simp [Zone.utcOffset, h])
    have hdst (h : z.inDst (tm.seconds - z.dstOffset) = true) : tm.seconds - z.dstOffset = t :=
      huniq _ (by simp [Zone.utcOffset, h])
    by_cases hc : (z.inDst (tm.seconds - z.stdOffset) && z.inDst (tm.seconds - z.dstOffset)) = true
    · rw [if_pos hc]
      exact hdst (Bool.and_eq_true _ _ ▸ hc).2
    · rw [if_neg hc]
      cases hs : z.inDst (tm.seconds - z.stdOffset)
      · exact hstd hs
      · unfold Zone.utcOffset at ht
        split at ht
        · rename_i ht'
          obtain rfl : tm.seconds - z.dstOffset = t := by omega
          simp [hs, ht'] at hc
        · omega

/-! ### POSIX `TZ` rules -/

/-- A rule `Mm.w.d/time` of a POSIX `TZ` value: weekday `d` (`0` is Sunday) of week `w` of
month `m`, week `5` meaning the last, at `time` seconds of local time. -/
structure TzRule where
  month : Int
  week : Int
  weekday : Int
  time : Int

/-- The day since the epoch on which the rule falls in `year`; 1970-01-01 was a Thursday. -/
def TzRule.day (r : TzRule) (year : Int) : Int :=
  let first := daysFromCivil year r.month 1
  let day := first + (r.weekday - (first + 4)) % 7 + 7 * (r.week - 1)
  if r.week = 5 ∧ daysFromCivil year (r.month + 1) 1 ≤ day then day - 7 else day

/-- A POSIX `TZ` value `std offset dst offset,start,end`, its offsets east of UTC. -/
structure PosixTz where
  stdOffset : Int
  dstOffset : Int
  start : TzRule
  finish : TzRule
  stdOffset_lt : -86400 < stdOffset ∧ stdOffset < 86400
  dstOffset_lt : -86400 < dstOffset ∧ dstOffset < 86400

/-- Daylight time runs from `start`, read in standard time, to `end`, read in daylight time,
of the year of the standard-time date, across the new year when `end` comes first. -/
def PosixTz.inDst (tz : PosixTz) (t : Int) : Bool :=
  let year := (civilFromDays ((t + tz.stdOffset) / 86400)).1
  let s := tz.start.day year * 86400 + tz.start.time - tz.stdOffset
  let e := tz.finish.day year * 86400 + tz.finish.time - tz.dstOffset
  if s < e then s ≤ t ∧ t < e else s ≤ t ∨ t < e

/-- The zone a `TZ` value sets. -/
def PosixTz.zone (tz : PosixTz) : Zone :=
  ⟨tz.stdOffset, tz.dstOffset, tz.inDst, tz.stdOffset_lt, tz.dstOffset_lt⟩

/-- `TZ=EST5EDT,M3.2.0,M11.1.0`: the eastern United States since 2007. -/
def easternTime : PosixTz where
  stdOffset := -18000
  dstOffset := -14400
  start := ⟨3, 2, 0, 7200⟩
  finish := ⟨11, 1, 0, 7200⟩
  stdOffset_lt := by decide
  dstOffset_lt := by decide

-- In 2024 daylight time ran from 10 March, 07:00 UTC, to 3 November, 06:00 UTC.
example : easternTime.start.day 2024 = 19792 ∧ easternTime.finish.day 2024 = 20030 ∧
    easternTime.inDst 1710053999 = false ∧ easternTime.inDst 1710054000 = true ∧
    easternTime.inDst 1730613599 = true ∧ easternTime.inDst 1730613600 = false := by decide

end SentinelDB
