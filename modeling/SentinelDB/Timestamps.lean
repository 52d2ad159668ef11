import SentinelDB.Recovery
import SentinelDB.RangeGuard
import Mathlib.Data.String.Defs

/-!
# Timestamps and the range of the clock

A `system_clock::time_point` counts nanoseconds in a signed 64-bit integer. The engine
builds time points from epoch milliseconds, `time_point(milliseconds(ms))`, and from
`mktime` seconds, `from_time_t(t)`: in the CLI's `parseTimestamp` (the whole string read
by `std::stoll`, else `"%Y-%m-%d %H:%M:%S"` in local time with optional `.mmm`), in the
HTTP server's `parseTimestamp`, and in the WAL replay's `is >> timestampMs`. The model
keeps the exact count (`fromMillis`, `fromSeconds`); `FitsClock` says that the clock's
type holds it.

The C library's calendar depends on the local time zone and is a parameter, `Calendar`.

An epoch-millisecond count fits the clock exactly when it lies within about 292 years of
the epoch (`fitsClock_fromMillis_iff`), and the WAL's own records always fit
(`fitsClock_truncMillis`). But `std::stoll` and `is >> long long` accept every 64-bit
count of milliseconds: `GET AT` and the WAL replay take `10000000000000`, in the year
2286, whose nanosecond count is beyond the clock (`epoch_millis_overflow_clock`).
-/

namespace SentinelDB

set_option autoImplicit false

/-- The fields of `std::tm` that `"%Y-%m-%d %H:%M:%S"` writes. -/
structure Tm where
  year : Int := 0
  mon : Int := 0
  mday : Int := 0
  hour : Int := 0
  min : Int := 0
  sec : Int := 0
  deriving DecidableEq, Repr

/-- What the engine uses of the C library's calendar, in the local time zone. -/
structure Calendar where
  /-- `is >> std::get_time(&tm, "%Y-%m-%d %H:%M:%S")` from `tm = {}`: the fields written,
  and the unread input, `none` once the stream has failed. -/
  getTime : List Char → Tm × Option (List Char)
  /-- `mktime(&tm)` with the given `tm_isdst`: seconds since the epoch, `-1` on failure. -/
  mktime : Tm → Int → Int
  /-- `std::put_time(std::localtime(&t), "%Y-%m-%d %H:%M:%S")`. -/
  putTime : Int → String

/-- `system_clock::from_time_t(t)`. -/
def fromSeconds (t : Int) : Int := t * 1000000000

/-- A nanosecond count that the clock's signed 64-bit representation holds. -/
def FitsClock (ns : Int) : Prop := -2 ^ 63 ≤ ns ∧ ns < 2 ^ 63

instance : DecidablePred FitsClock := fun _ => inferInstanceAs (Decidable (_ ∧ _))

/-- `is >> c` for a `char c`: skip blanks, take one character. -/
def readChar (cs : List Char) : Option (Char × List Char) :=
  match cs.dropWhile isSpace with
  | [] => none
  | c :: rest => some (c, rest)

/-- `is >> n` for an `int n` as C++11 stores it: `0` when no integer is read, the nearest
bound of `int` when it does not fit. -/
def extractInt (cs : List Char) : Int :=
  match scanInteger cs with
  | none => 0
  | some (v, _) => max (-2 ^ 31) (min v (2 ^ 31 - 1))

namespace RedisLikeCLI

/-- The second half of `RedisLikeCLI::parseTimestamp`: `"%Y-%m-%d %H:%M:%S"` in local
time, then `.mmm` when `ss >> dot >> milliseconds` reads a dot and an `int`. -/
def parseLocalTime (cal : Calendar) (timestampStr : String) : Option Int :=
  match cal.getTime timestampStr.data with
  | (_, none) => none
  | (tm, some rest) =>
    let timeT := cal.mktime tm (-1)
    if timeT = -1 then none
    else
      let result := fromSeconds timeT
      match readChar rest with
      | some (dot, rest) =>
        match readInt (some rest) with
        | some milliseconds => some (if dot = '.' then result + fromMillis milliseconds else result)
        | none => some result
      | none => some result

/-- `RedisLikeCLI::parseTimestamp`: epoch milliseconds when `std::stoll` reads the whole
string, local time otherwise. -/
def parseTimestamp (cal : Calendar) (timestampStr : String) : Option Int :=
  match stollPos timestampStr with
  | .ok (epochMs, pos) =>
    if pos = timestampStr.length then some (fromMillis epochMs) else parseLocalTime cal timestampStr
  | .error _ => parseLocalTime cal timestampStr

end RedisLikeCLI

namespace HttpServer

/-- The HTTP server's `parseTimestamp`: `get_time` unchecked, `mktime` with `tm_isdst = 0`,
then `.mmm` when the next character is a dot. -/
def parseTimestamp (cal : Calendar) (timeStr : String) : Int :=
  let (tm, ss) := cal.getTime timeStr.data
  let tp := fromSeconds (cal.mktime tm 0)
  match ss with
  | some ('.' :: rest) => tp + fromMillis (extractInt rest)
  | _ => tp

end HttpServer

/-- `formatTimestamp`, the same text in both drivers: local time to the second, then the
milliseconds of `duration_cast<milliseconds>(...) % 1000` behind `setw(3)`, `setfill('0')`. -/
def formatTimestamp (cal : Calendar) (tp : Int) : String :=
  cal.putTime (tp.tdiv 1000000000) ++ "." ++ String.leftpad 3 '0' (toString ((toMillis tp).tmod 1000))

/-! ### The range of the clock -/

theorem two_pow_63 : (2 : Int) ^ 63 = 9223372036854775808 := by norm_num

theorem fitsClock_fromMillis_iff (ms : Int) :
    FitsClock (fromMillis ms) ↔ -9223372036854 ≤ ms ∧ ms ≤ 9223372036854 := by
  unfold FitsClock fromMillis
  rw [two_pow_63]
  omega

theorem fitsClock_truncMillis (t : TimePoint) : FitsClock (truncMillis t.ns) := by
  have h1 := t.ge_min
  have h2 := t.lt_max
  unfold FitsClock truncMillis fromMillis
  rw [toMillis_eq]
  rw [two_pow_63] at h1 h2 ⊢
  split <;> omega

/-! ### The epoch-millisecond branch -/

/-- `GET k AT 10000000000000` and the WAL line `SET k v 10000000000000` are read as the
instant `10000000000000` ms after the epoch, whose nanosecond count the clock cannot hold. -/
theorem epoch_millis_overflow_clock (cal : Calendar) (now : TimePoint) (kv : KVStore) :
    RedisLikeCLI.parseTimestamp cal "10000000000000" = some (fromMillis 10000000000000) ∧
    replayDataLine now kv "SET k v 10000000000000" = kv.setAtTime "k" "v" (fromMillis 10000000000000) now ∧
    ¬FitsClock (fromMillis 10000000000000) := by
  refine ⟨rfl, rfl, ?_⟩
  rw [fitsClock_fromMillis_iff]
  omega

end SentinelDB
