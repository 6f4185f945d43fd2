import ModelForge.Number.Decimal

/-!
# Points in time

A point in time is a date, or a date and a time of day, which may have a fraction and a zone.
`Moment.literal` checks it against the calendar, and `Moment.instant?` tells when it is, so that one
instant written in two zones is recognised.
-/

namespace ModelForge

namespace Yaml

/-- A point in time as written. -/
structure Moment where
  year : Nat
  month : Nat
  day : Nat
  /-- Hour, minute, second and the digits of its fraction. -/
  time : Option (Nat × Nat × Nat × List Char)
  /-- The zone: none, the standard one, or a sign with hours and minutes. -/
  zone : Option (Option (Bool × Nat × Nat))
  /-- Whether month and day have two digits each. -/
  wide : Bool

namespace Moment

/-- One or two ASCII digits and what follows: the number and how many digits there were. -/
def oneOrTwo : List Char → Option (Nat × Nat × List Char)
  | c :: d :: rest =>
    if c.isDigit then
      if d.isDigit then some ((c.toNat - 0x30) * 10 + (d.toNat - 0x30), 2, rest)
      else some (c.toNat - 0x30, 1, d :: rest)
    else none
  | [c] => if c.isDigit then some (c.toNat - 0x30, 1, []) else none
  | [] => none

/-- Two ASCII digits and what follows. -/
def two (s : List Char) : Option (Nat × List Char) :=
  match oneOrTwo s with
  | some (n, 2, rest) => some (n, rest)
  | _ => none

/-- A given character and what follows. -/
def after (c : Char) : List Char → Option (List Char)
  | d :: rest => if c = d then some rest else none
  | [] => none

/-- A zone that ends the text. -/
def zone? (s : List Char) : Option (Option (Option (Bool × Nat × Nat))) :=
  match s with
  | [] => some none
  | _ =>
    match s.dropWhile fun c => c == ' ' || c == '\t' with
    | ['Z'] => some (some none)
    | sign :: rest =>
      if sign = '-' ∨ sign = '+' then
        match oneOrTwo rest with
        | some (hours, _, []) => some (some (some (sign == '-', hours, 0)))
        | some (hours, _, ':' :: rest) =>
          match two rest with
          | some (minutes, []) => some (some (some (sign == '-', hours, minutes)))
          | _ => none
        | _ => none
      else none
    | [] => none

/-- A time of day and a zone that end the text. -/
def clock? (s : List Char) :
    Option ((Nat × Nat × Nat × List Char) × Option (Option (Bool × Nat × Nat))) := do
  let (hour, _, rest) ← oneOrTwo s
  let (minute, rest) ← (after ':' rest).bind two
  let (second, rest) ← (after ':' rest).bind two
  let (fraction, rest) :=
    match rest with
    | '.' :: more => (more.takeWhile Char.isDigit, more.dropWhile Char.isDigit)
    | _ => ([], rest)
  let zone ← zone? rest
  return ((hour, minute, second, fraction), zone)

/-- Reads a point in time. -/
def ofChars? (s : List Char) : Option Moment := do
  let year := s.take 4
  if year.length = 4 ∧ year.all Char.isDigit then
    let rest ← after '-' (s.drop 4)
    let (month, monthWidth, rest) ← oneOrTwo rest
    let (day, dayWidth, rest) ← (after '-' rest).bind oneOrTwo
    let wide := monthWidth == 2 && dayWidth == 2
    let year := Decimal.natOf (year.map fun c => c.toNat - 0x30)
    match rest with
    | [] => return ⟨year, month, day, none, none, wide⟩
    | c :: more =>
      let more :=
        if c = 'T' ∨ c = 't' then some more
        else if c = ' ' ∨ c = '\t' then some (more.dropWhile fun c => c == ' ' || c == '\t')
        else none
      let (time, zone) ← more.bind clock?
      return ⟨year, month, day, some time, zone, wide⟩
  else none

/-- Whether a plain scalar of this form is read as a point in time. -/
def isPlain (m : Moment) : Bool := m.time.isSome || m.wide

/-- The number of days of a month. -/
def monthLength (year month : Nat) : Nat :=
  if month = 2 then
    if year % 4 = 0 ∧ (year % 100 ≠ 0 ∨ year % 400 = 0) then 29 else 28
  else if month = 4 ∨ month = 6 ∨ month = 9 ∨ month = 11 then 30
  else 31

/-- The literal of a span of seconds: whole days and the seconds left over. -/
def spanLiteral (seconds : Int) : String :=
  let days := seconds.fdiv 86400
  let rest := seconds.fmod 86400
  let parts := (if days ≠ 0 then [s!"days={days}"] else []) ++
    (if rest ≠ 0 then [s!"seconds={rest}"] else [])
  "datetime.timedelta(" ++ (if parts.isEmpty then "0" else String.intercalate ", " parts) ++ ")"

/-- Seconds east of the standard zone. -/
def offset (zone : Bool × Nat × Nat) : Int :=
  let seconds : Int := zone.2.1 * 3600 + zone.2.2 * 60
  if zone.1 then -seconds else seconds

/-- The millionths of a second in the digits of a fraction. -/
def millionths (digits : List Char) : Nat :=
  let ds := (digits.take 6).map fun c => c.toNat - 0x30
  Decimal.natOf (ds ++ List.replicate (6 - ds.length) 0)

/-- The literal of a point in time, or why there is no such point. -/
def literal (m : Moment) : Except String String := do
  let zone : String ←
    match m.zone with
    | some (some zone) =>
      let seconds := offset zone
      if 86400 ≤ seconds.natAbs then
        throw ("offset must be a timedelta strictly between -timedelta(hours=24) and " ++
          s!"timedelta(hours=24), not {spanLiteral seconds}.")
      else if seconds = 0 then pure ", tzinfo=datetime.timezone.utc"
      else pure s!", tzinfo=datetime.timezone({spanLiteral seconds})"
    | some none => pure ", tzinfo=datetime.timezone.utc"
    | none => pure ""
  if m.year = 0 then throw "year 0 is out of range"
  if m.month = 0 ∨ 12 < m.month then throw "month must be in 1..12"
  if m.day = 0 ∨ monthLength m.year m.month < m.day then throw "day is out of range for month"
  match m.time with
  | none => return s!"datetime.date({m.year}, {m.month}, {m.day})"
  | some (hour, minute, second, fraction) =>
    if 23 < hour then throw "hour must be in 0..23"
    if 59 < minute then throw "minute must be in 0..59"
    if 59 < second then throw "second must be in 0..59"
    let small := millionths fraction
    let tail :=
      if small ≠ 0 then s!", {second}, {small}" else if second ≠ 0 then s!", {second}" else ""
    return s!"datetime.datetime({m.year}, {m.month}, {m.day}, {hour}, {minute}{tail}{zone})"

/-- The days from the first day of the first year to a date. -/
def dayNumber (year month day : Nat) : Nat :=
  let before := year - 1
  let months := (List.range (month - 1)).map fun k => monthLength year (k + 1)
  365 * before + before / 4 - before / 100 + before / 400 + months.foldl (· + ·) 0 + day - 1

/-- The millionths of a second from the first day of the first year in the standard zone; none for a
point in time without a zone. -/
def instant? (m : Moment) : Option Int :=
  match m.time, m.zone with
  | some (hour, minute, second, fraction), some zone =>
    let seconds := ((dayNumber m.year m.month m.day * 24 + hour) * 60 + minute) * 60 + second
    some (((seconds : Int) - (zone.map offset).getD 0) * 1000000 + millionths fraction)
  | _, _ => none

end Moment

end Yaml

end ModelForge
