import SentinelDB.LocalTime
import SentinelDB.Http

/-!
# Copying a timestamp from `HISTORY` into `GET ... AT`

`HISTORY` and `GET /history` print each version's timestamp with `formatTimestamp`: the
local time of its second and its millisecond. `GET ... AT` and `GET /getAt` read such a text
back with the drivers' `parseTimestamp`s, which differ in one argument of `mktime`: the CLI
asks it to determine daylight saving time (`tm_isdst = -1`), the server presumes standard
time (`tm_isdst = 0`).

In every zone and with every C library that computes as POSIX says
(`printed_timestamps_read_back`), the server reads the printed form of a reading at or
after the epoch back as the reading truncated to the millisecond and moved by the daylight
saving in effect at it: exact in standard time, an hour late in summer. The CLI reads it
back exactly whenever no other instant has the same local time; in the hour repeated when
daylight time ends two instants print alike (`copied_timestamps_miss_their_versions`).

Neither reads back what lies below the millisecond, and a write records the clock to the
nanosecond: a timestamp copied from `HISTORY` names an instant before its version, so
neither `GET ... AT` nor `GET /getAt` selects it, in UTC as well.
-/

namespace SentinelDB

set_option autoImplicit false

section RoundTrip

variable {z : Zone} {cal : Calendar}

theorem scanInteger_digits {ds : List Char} (hd : ∀ c ∈ ds, c.isDigit = true) (hne : ds ≠ []) :
    scanInteger ds = some ((digitsValue ds : Int), []) :=
  scanInteger_eq_some_iff.mpr ⟨[], [], ds, by simp, by simp, .inl rfl, hne, hd, by simp, by simp⟩

/-- What both drivers print for a reading at or after the epoch: the local time of its
second, a dot, and its millisecond in three digits. -/
theorem formatTimestamp_eq (hcal : cal.Realizes z) {tp : Int} (h0 : 0 ≤ tp) :
    formatTimestamp cal tp = putTimeFormat (z.localtime (tp / 1000000000)) ++ "." ++
      String.leftpad 3 '0' (toString (tp / 1000000 % 1000)) := by
  unfold formatTimestamp
  rw [hcal.putTime, Int.tdiv_eq_ediv h0 (by decide), toMillis_eq, if_pos h0,
    Int.tmod_eq_emod (Int.ediv_nonneg h0 (by decide)) (by decide)]

theorem formatTimestamp_calendar (hcal : cal.Realizes z) : formatTimestamp cal = formatTimestamp z.calendar :=
  funext fun _ => by rw [formatTimestamp, formatTimestamp, hcal.putTime]; rfl

theorem getTime_formatTimestamp (hcal : cal.Realizes z) {tp : Int} (h0 : 0 ≤ tp) (h1 : tp < 2 ^ 63) :
    cal.getTime (formatTimestamp cal tp).data = (z.localtime (tp / 1000000000),
      some ('.' :: (String.leftpad 3 '0' (toString (tp / 1000000 % 1000))).data)) := by
  have hoff := z.utcOffset_lt (tp / 1000000000)
  rw [formatTimestamp_eq hcal h0, hcal.getTime, String.data_append, String.data_append,
    show ".".data = ['.'] from rfl, List.append_assoc, List.singleton_append]
  exact getTimeFormat_putTimeFormat (breakDown_inRange (by omega) (by omega)) _

theorem scanInteger_millis (tp : Int) :
    scanInteger (String.leftpad 3 '0' (toString (tp / 1000000 % 1000))).data = some (tp / 1000000 % 1000, []) := by
  obtain ⟨hdig, hlen, hval⟩ := leftpad_data (w := 3) (by decide) (Int.emod_nonneg _ (by decide))
    (Int.emod_lt_of_pos _ (by decide) : tp / 1000000 % 1000 < 10 ^ 3)
  rw [scanInteger_digits hdig (fun h => by simp [h] at hlen), hval,
    Int.toNat_of_nonneg (Int.emod_nonneg _ (by decide))]

theorem readInt_millis (tp : Int) :
    readInt (some (String.leftpad 3 '0' (toString (tp / 1000000 % 1000))).data) = some (tp / 1000000 % 1000) := by
  simp only [readInt, readSigned, scanInteger_millis]
  rw [if_pos (by omega)]

theorem stollPos_digits_dash {ds rest : List Char} (hd : ∀ c ∈ ds, c.isDigit = true) (hne : ds ≠ []) :
    stollPos ⟨ds ++ '-' :: rest⟩ =
      if -2 ^ 63 ≤ (digitsValue ds : Int) ∧ (digitsValue ds : Int) < 2 ^ 63 then
        .ok ((digitsValue ds : Int), (ds ++ '-' :: rest).length - ('-' :: rest).length)
      else .error (.outOfRange "stoll") := by
  have hscan : scanInteger (ds ++ '-' :: rest) = some ((digitsValue ds : Int), '-' :: rest) :=
    scanInteger_eq_some_iff.mpr ⟨[], [], ds, by simp, by simp, .inl rfl, hne, hd, head_dash_not_digit rest,
      by simp⟩
  unfold stollPos stoSignedPos
  rw [hscan]

theorem parseTimestamp_of_dash (cal : Calendar) {s : String} {ds rest : List Char}
    (hs : s.data = ds ++ '-' :: rest) (hd : ∀ c ∈ ds, c.isDigit = true) (hne : ds ≠ []) :
    RedisLikeCLI.parseTimestamp cal s = RedisLikeCLI.parseLocalTime cal s := by
  obtain ⟨cs⟩ := s
  dsimp only at hs
  subst hs
  unfold RedisLikeCLI.parseTimestamp
  rw [stollPos_digits_dash hd hne]
  split_ifs with hrange
  · show (if _ = _ then _ else _) = _
    have := List.length_pos.mpr hne
    rw [if_neg (by simp only [String.length, List.length_append, List.length_cons]; omega)]
  · rfl

theorem putTimeFormat_data (tm : Tm) :
    ∃ rest, (putTimeFormat tm).data = (toString (tm.year + 1900)).data ++ '-' :: rest :=
  ⟨_, by simp only [putTimeFormat, String.data_append, List.append_assoc]; rfl⟩

/-- The server reads a printed reading at or after the epoch back truncated to the
millisecond and moved by the daylight saving in effect at it. -/
theorem httpServer_parseTimestamp_formatTimestamp (hcal : cal.Realizes z) {tp : Int} (h0 : 0 ≤ tp)
    (h1 : tp < 2 ^ 63) :
    HttpServer.parseTimestamp cal (formatTimestamp cal tp) =
      truncMillis tp + fromSeconds (z.utcOffset (tp / 1000000000) - z.stdOffset) := by
  unfold HttpServer.parseTimestamp
  rw [getTime_formatTimestamp hcal h0 h1]
  dsimp only
  rw [hcal.mktime_std, Zone.localtime, seconds_breakDown]
  simp only
  unfold extractInt
  rw [scanInteger_millis]
  dsimp only
  rw [show max (-2 ^ 31) (min (tp / 1000000 % 1000) (2 ^ 31 - 1)) = tp / 1000000 % 1000 by omega]
  unfold truncMillis toMillis fromMillis fromSeconds
  rw [Int.tdiv_eq_ediv h0 (by decide)]
  omega

/-- The CLI reads a printed reading at or after the epoch back truncated to the millisecond
when no other instant has the same local time. -/
theorem redisLikeCLI_parseTimestamp_formatTimestamp (hcal : cal.Realizes z) {tp : Int} (h0 : 0 ≤ tp)
    (h1 : tp < 2 ^ 63)
    (huniq : ∀ t, t + z.utcOffset t = tp / 1000000000 + z.utcOffset (tp / 1000000000) → t = tp / 1000000000) :
    RedisLikeCLI.parseTimestamp cal (formatTimestamp cal tp) = some (truncMillis tp) := by
  have hoff := z.utcOffset_lt (tp / 1000000000)
  have hin : (z.localtime (tp / 1000000000)).InRange := breakDown_inRange (by omega) (by omega)
  have hsec : (z.localtime (tp / 1000000000)).seconds = tp / 1000000000 + z.utcOffset (tp / 1000000000) :=
    seconds_breakDown _
  obtain ⟨rest, hrest⟩ := putTimeFormat_data (z.localtime (tp / 1000000000))
  obtain ⟨n, hn⟩ := Int.eq_ofNat_of_zero_le (by have := hin.year; omega :
    0 ≤ (z.localtime (tp / 1000000000)).year + 1900)
  obtain ⟨hdig, -, hne⟩ := toDigits_spec n
  have hdata : (formatTimestamp cal tp).data = Nat.toDigits 10 n ++ '-' :: (rest ++
      '.' :: (String.leftpad 3 '0' (toString (tp / 1000000 % 1000))).data) := by
    rw [formatTimestamp_eq hcal h0, String.data_append, String.data_append, hrest, hn]
    simp only [List.append_assoc, List.cons_append]
    rfl
  rw [parseTimestamp_of_dash cal hdata hdig hne]
  unfold RedisLikeCLI.parseLocalTime
  rw [getTime_formatTimestamp hcal h0 h1]
  dsimp only
  rw [hcal.mktime_unique _ _ hsec.symm fun t' h => huniq t' (hsec ▸ h), if_neg (by omega)]
  rw [show readChar ('.' :: (String.leftpad 3 '0' (toString (tp / 1000000 % 1000))).data) =
    some ('.', (String.leftpad 3 '0' (toString (tp / 1000000 % 1000))).data) from rfl]
  simp only [readInt_millis, ↓reduceIte, Option.some.injEq]
  unfold truncMillis toMillis fromMillis fromSeconds
  rw [Int.tdiv_eq_ediv h0 (by decide)]
  omega

/-- Without daylight saving both drivers read a printed reading back cut to the millisecond. -/
theorem parseTimestamps_formatTimestamp_of_no_dst (hz : ∀ t, z.inDst t = false) (hcal : cal.Realizes z)
    {tp : Int} (h0 : 0 ≤ tp) (h1 : tp < 2 ^ 63) :
    RedisLikeCLI.parseTimestamp cal (formatTimestamp cal tp) = some (truncMillis tp) ∧
    HttpServer.parseTimestamp cal (formatTimestamp cal tp) = truncMillis tp := by
  have hoff := Zone.utcOffset_of_no_dst hz
  refine ⟨redisLikeCLI_parseTimestamp_formatTimestamp hcal h0 h1 fun t h => ?_, ?_⟩
  · rw [hoff, hoff] at h
    omega
  · rw [httpServer_parseTimestamp_formatTimestamp hcal h0 h1, hoff, sub_self, fromSeconds, zero_mul, add_zero]

end RoundTrip

/-- A printed timestamp reads back truncated to the millisecond: by the server moved by the
daylight saving in effect, by the CLI when no other instant has its local time. -/
theorem printed_timestamps_read_back (z : Zone) (cal : Calendar) (hcal : cal.Realizes z) (tp : TimePoint)
    (h0 : 0 ≤ tp.ns) :
    HttpServer.parseTimestamp cal (formatTimestamp cal tp.ns) =
      truncMillis tp.ns + fromSeconds (z.utcOffset (tp.ns / 1000000000) - z.stdOffset) ∧
    ((∀ t, t + z.utcOffset t = tp.ns / 1000000000 + z.utcOffset (tp.ns / 1000000000) →
        t = tp.ns / 1000000000) →
      RedisLikeCLI.parseTimestamp cal (formatTimestamp cal tp.ns) = some (truncMillis tp.ns)) :=
  ⟨httpServer_parseTimestamp_formatTimestamp hcal h0 tp.lt_max,
    redisLikeCLI_parseTimestamp_formatTimestamp hcal h0 tp.lt_max⟩

/-- The reading at 12:00 UTC on 1 July 2024, in Eastern time. -/
theorem printed_timestamps_read_back_in_summer :
    easternTime.zone.calendar.Realizes easternTime.zone ∧ 0 ≤ fromMillis 1719835200000 ∧
    HttpServer.parseTimestamp easternTime.zone.calendar
        (formatTimestamp easternTime.zone.calendar (fromMillis 1719835200000)) =
      truncMillis (fromMillis 1719835200000) + fromSeconds (easternTime.zone.utcOffset
        (fromMillis 1719835200000 / 1000000000) - easternTime.zone.stdOffset) ∧
    ((∀ t, t + easternTime.zone.utcOffset t = fromMillis 1719835200000 / 1000000000 +
        easternTime.zone.utcOffset (fromMillis 1719835200000 / 1000000000) →
        t = fromMillis 1719835200000 / 1000000000) →
      RedisLikeCLI.parseTimestamp easternTime.zone.calendar
        (formatTimestamp easternTime.zone.calendar (fromMillis 1719835200000)) =
          some (truncMillis (fromMillis 1719835200000))) :=
  ⟨easternTime.zone.calendar_realizes, by decide,
    printed_timestamps_read_back easternTime.zone _ easternTime.zone.calendar_realizes
      ⟨fromMillis 1719835200000, by decide, by decide⟩ (by decide)⟩

/-- Copied timestamps miss: in Eastern time the server reads 12:00 UTC back as 13:00 and the CLI
confuses 05:30 and 06:30 UTC on 3 November 2024; in UTC a write at 12:00 and 1 ns is missed. -/
theorem copied_timestamps_miss_their_versions (cal : Calendar) (hcal : cal.Realizes easternTime.zone)
    (utc : Calendar) (hutc : utc.Realizes Zone.utc) :
    (formatTimestamp cal (fromMillis 1719835200000) = "2024-07-01 08:00:00.000" ∧
      HttpServer.parseTimestamp cal "2024-07-01 08:00:00.000" = fromMillis 1719838800000) ∧
    (formatTimestamp cal (fromMillis 1730611800000) = "2024-11-03 01:30:00.000" ∧
      formatTimestamp cal (fromMillis 1730615400000) = "2024-11-03 01:30:00.000" ∧
      (RedisLikeCLI.parseTimestamp cal "2024-11-03 01:30:00.000" ≠ some (fromMillis 1730611800000) ∨
        RedisLikeCLI.parseTimestamp cal "2024-11-03 01:30:00.000" ≠ some (fromMillis 1730615400000))) ∧
    ∃ kv, Reachable WordRun kv 1719835200000000001 ∧
      RedisLikeCLI.handleHistory utc kv (CommandParser.parse "HISTORY k") =
        "1 version(s):\n1) [2024-07-01 12:00:00.000] \x22v\x22\n" ∧
      RedisLikeCLI.handleGetAt utc kv (CommandParser.parse "GET k AT 2024-07-01 12:00:00.000") = "(nil)\n" ∧
      (HttpServer.getValueAt utc kv [("key", "k"), ("timestamp", "2024-07-01 12:00:00.000")]).status = 404 := by
  have hfmt := formatTimestamp_calendar hcal
  have hutcfmt := formatTimestamp_calendar hutc
  have hsummer : formatTimestamp cal (fromMillis 1719835200000) = "2024-07-01 08:00:00.000" := by
    rw [hfmt]
    decide
  have hnoon : formatTimestamp utc 1719835200000000001 = "2024-07-01 12:00:00.000" := by
    rw [hutcfmt]
    decide
  obtain ⟨hcli, hhttp⟩ := hnoon ▸ parseTimestamps_formatTimestamp_of_no_dst (fun _ => rfl) hutc
    (show (0 : Int) ≤ 1719835200000000001 by decide) (by decide)
  refine ⟨⟨hsummer, ?_⟩, ⟨by rw [hfmt]; decide, by rw [hfmt]; decide, ?_⟩, ?_⟩
  · rw [← hsummer, httpServer_parseTimestamp_formatTimestamp hcal (by decide) (by decide)]
    decide
  · exact not_and_or.mp fun ⟨h₁, h₂⟩ => absurd (Option.some.inj (h₁.symm.trans h₂)) (by decide)
  · refine ⟨_, (Reachable.start .cli ⟨1719835200000000001, by decide, by decide⟩ trivial).call (.set "k" "v")
      ⟨1719835200000000001, by decide, by decide⟩ (by decide) le_rfl, ?_, ?_, ?_⟩
    · unfold RedisLikeCLI.handleHistory
      rw [hutcfmt]
      decide
    · unfold RedisLikeCLI.handleGetAt
      rw [show (CommandParser.parse "GET k AT 2024-07-01 12:00:00.000").args =
        ["k", "2024-07-01 12:00:00.000"] by decide]
      dsimp only
      rw [hcli]
      decide
    · unfold HttpServer.getValueAt
      rw [show [("key", "k"), ("timestamp", "2024-07-01 12:00:00.000")].lookup "key" = some "k" by decide,
        show [("key", "k"), ("timestamp", "2024-07-01 12:00:00.000")].lookup "timestamp" =
          some "2024-07-01 12:00:00.000" by decide]
      dsimp only
      rw [hhttp]
      decide

/-- The C library of `Zone.calendar` in Eastern time and in UTC. -/
theorem copied_timestamps_miss_their_versions_in_eastern_time :
    easternTime.zone.calendar.Realizes easternTime.zone ∧ Zone.utc.calendar.Realizes Zone.utc ∧
    (formatTimestamp easternTime.zone.calendar (fromMillis 1719835200000) = "2024-07-01 08:00:00.000" ∧
      HttpServer.parseTimestamp easternTime.zone.calendar "2024-07-01 08:00:00.000" = fromMillis 1719838800000) ∧
    (formatTimestamp easternTime.zone.calendar (fromMillis 1730611800000) = "2024-11-03 01:30:00.000" ∧
      formatTimestamp easternTime.zone.calendar (fromMillis 1730615400000) = "2024-11-03 01:30:00.000" ∧
      (RedisLikeCLI.parseTimestamp easternTime.zone.calendar "2024-11-03 01:30:00.000" ≠
          some (fromMillis 1730611800000) ∨
        RedisLikeCLI.parseTimestamp easternTime.zone.calendar "2024-11-03 01:30:00.000" ≠
          some (fromMillis 1730615400000))) ∧
    ∃ kv, Reachable WordRun kv 1719835200000000001 ∧
      RedisLikeCLI.handleHistory Zone.utc.calendar kv (CommandParser.parse "HISTORY k") =
        "1 version(s):\n1) [2024-07-01 12:00:00.000] \x22v\x22\n" ∧
      RedisLikeCLI.handleGetAt Zone.utc.calendar kv (CommandParser.parse "GET k AT 2024-07-01 12:00:00.000") =
        "(nil)\n" ∧
      (HttpServer.getValueAt Zone.utc.calendar kv
        [("key", "k"), ("timestamp", "2024-07-01 12:00:00.000")]).status = 404 :=
  ⟨easternTime.zone.calendar_realizes, Zone.utc.calendar_realizes,
    copied_timestamps_miss_their_versions _ easternTime.zone.calendar_realizes _ Zone.utc.calendar_realizes⟩

end SentinelDB
