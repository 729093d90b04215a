import LineAgents.Date.Token
import LineAgents.Number.Basic

/-!
# Reading dates

`LineAgents.Date.parse?` reads a date as a time in milliseconds since the start of 1970, in
universal time. The calendar form `2030-01-31T12:00:00Z` is tried first, with or without its time
and its zone. Whatever does not fit it is read on loosely: a number before a colon belongs to the
time, a word that starts like a month names the month, a zone may follow by name or by sign and
number, and the remaining numbers are day, month and year in one of the usual orders. A day is only
required to be between 1 and 31, and runs over into the next month when its month is shorter.
-/

namespace LineAgents.Date

/-! ### The parts of a date -/

/-- **A date being put together.** -/
structure Parts where
  /-- The numbers of the day, at most three. -/
  day : List Int := []
  namedMonth : Option Nat := none
  /-- Whether the date has the calendar form. -/
  calendar : Bool := false
  /-- The numbers of the time, at most four. -/
  time : List Nat := []
  hourOffset : Option Nat := none
  /-- Whether the zone is behind universal time, once there is a zone. -/
  zoneBehind : Option Bool := none
  zoneHour : Option Nat := none
  zoneMinute : Option Nat := none
  /-- Whether a number was read. -/
  numbered : Bool := false

namespace Parts

/-- One more number of the day, if there is room. -/
def addDay (p : Parts) (n : Int) : Option Parts :=
  if p.day.length < 3 then some { p with day := p.day ++ [n] } else none

/-- One more number of the time, if there is room. -/
def addTime (p : Parts) (n : Nat) : Option Parts :=
  if p.time.length < 4 then some { p with time := p.time ++ [n] } else none

/-- The last number of the time; what is missing is zero. -/
def endTime (p : Parts) (n : Nat) : Parts :=
  { p with time := (p.time ++ [n] ++ List.replicate 3 0).take 4 }

/-- The zone at a distance in hours. -/
def setZone (p : Parts) (hours : Int) : Parts :=
  { p with zoneBehind := some (hours < 0), zoneHour := some hours.natAbs, zoneMinute := some 0 }

/-- Whether the number can be the next of a time that has begun. -/
def expectsTime (p : Parts) (n : Nat) : Bool :=
  match p.time.length with
  | 1 | 2 => n < 60
  | 3 => n < 1000
  | _ => false

/-- Whether the number can be the minutes of a zone whose hours are known. -/
def expectsZone (p : Parts) (n : Nat) : Bool :=
  p.zoneHour.isSome && p.zoneMinute.isNone && n < 60

/-- Whether the zone is universal time. -/
def isUniversal (p : Parts) : Bool := p.zoneHour == some 0 && p.zoneMinute == some 0

end Parts

/-! ### From the parts to a time -/

/-- The days from the start of 1970 to a day of the proleptic Gregorian calendar, with months from
1 and days that may run over. -/
def dayNumber (year month day : Int) : Int :=
  let y := if month ≤ 2 then year - 1 else year
  let era := y.fdiv 400
  let yearOfEra := y - era * 400
  let shifted := if month > 2 then month - 3 else month + 9
  let dayOfYear := (153 * shifted + 2).fdiv 5 + day - 1
  let dayOfEra := yearOfEra * 365 + yearOfEra.fdiv 4 - yearOfEra.fdiv 100 + dayOfYear
  era * 146097 + dayOfEra - 719468

/-- A number that can be a day of a month. -/
def isDay (n : Int) : Bool := 1 ≤ n && n ≤ 31

/-- A year of two digits means one between 1950 and 2049. -/
def fullYear (y : Int) : Int :=
  if 0 ≤ y && y ≤ 49 then y + 2000 else if 50 ≤ y && y ≤ 99 then y + 1900 else y

/-- The year, month and day of the parts. -/
def Parts.date? (p : Parts) : Option (Int × Int × Int) :=
  match p.day ++ List.replicate (3 - p.day.length) 1, p.day with
  | a :: b :: c :: _, _ :: _ =>
    let (y, m, d) := match p.namedMonth with
      | some m => if isDay a then (b, (m : Int), a) else (a, (m : Int), b)
      | none => if p.calendar || !isDay a then (a, b, c) else (c, a, b)
    let y := if p.calendar then y else fullYear y
    if 1 ≤ m && m ≤ 12 && isDay d then some (y, m, d) else none
  | _, _ => none

/-- The time of day of the parts, in milliseconds. -/
def Parts.timeOfDay? (p : Parts) : Option Int :=
  match p.time ++ List.replicate (4 - p.time.length) 0 with
  | h :: m :: s :: ms :: _ =>
    let hour? : Option Nat := match p.hourOffset with
      | some o => if h ≤ 12 then some (h % 12 + o) else none
      | none => some h
    match hour? with
    | some h =>
      if (h < 24 && m < 60 && s < 60 && ms < 1000) || (h == 24 && m == 0 && s == 0 && ms == 0) then
        some (((h * 60 + m) * 60 + s) * 1000 + ms : Nat)
      else none
    | none => none
  | _ => none

/-- The distance of the zone from universal time, in milliseconds. -/
def Parts.zoneOffset (p : Parts) : Int :=
  match p.zoneBehind with
  | none => 0
  | some behind =>
    let size : Int := ((p.zoneHour.getD 0 * 60 + p.zoneMinute.getD 0) * 60000 : Nat)
    if behind then -size else size

/-- The time of the parts, if they make one within a hundred million days of 1970. -/
def Parts.instant? (p : Parts) : Option Int := do
  let (y, m, d) ← p.date?
  let t ← p.timeOfDay?
  let ms := dayNumber y m d * 86400000 + t - p.zoneOffset
  if ms.natAbs ≤ 8640000000000000 then some ms else none

/-! ### The calendar form -/

/-- **How far the calendar form carried**: to the end, into a contradiction, or up to tokens that
have to be read loosely. -/
inductive Progress where
  | complete (parts : Parts)
  | impossible
  | loose (parts : Parts) (rest : List Token)

/-- The thousandths that the digits after a point mean. -/
def thousandths (value length : Nat) : Nat :=
  match length with
  | 1 => value * 100
  | 2 => value * 10
  | n => value / Nat.pow 10 (min n 9 - 3)

/-- The zone of a calendar time: nothing, the letter for universal time, or a sign with hours and
minutes. -/
def calendarZone (p : Parts) : List Token → Progress
  | [] => .complete p
  | [.word (.zone 0) 1] => .complete (p.setZone 0)
  | .symbol s :: rest =>
    let zone (h m : Nat) : Progress :=
      if (s == 43 || s == 45) && h < 24 && m < 60 then
        .complete { p with zoneBehind := some (s == 45), zoneHour := some h, zoneMinute := some m }
      else .impossible
    match rest with
    | [.number hm 4] => zone (hm / 100) (hm % 100)
    | [.number h 2, .symbol 58, .number m 2] => zone h m
    | _ => .impossible
  | _ => .impossible

/-- The time of a calendar date. -/
def calendarTime (p : Parts) : List Token → Progress
  | .number h 2 :: .symbol 58 :: .number m 2 :: .symbol 58 :: .number s 2 :: .symbol 46 ::
      .number f n :: rest =>
    if (h < 24 && m < 60 && s < 60) || (h == 24 && m == 0 && s == 0 && f == 0) then
      calendarZone { p with time := [h, m, s, thousandths f n] } rest
    else .impossible
  | .number h 2 :: .symbol 58 :: .number m 2 :: .symbol 58 :: .number s 2 :: rest =>
    if (h < 24 && m < 60 && s < 60) || (h == 24 && m == 0 && s == 0) then
      calendarZone { p with time := [h, m, s] } rest
    else .impossible
  | .number h 2 :: .symbol 58 :: .number m 2 :: rest =>
    if (h < 24 && m < 60) || (h == 24 && m == 0) then
      calendarZone { p with time := [h, m] } rest
    else .impossible
  | _ => .impossible

/-- What follows the day of a calendar date: nothing, or its time. -/
def calendarRest (p : Parts) : List Token → Progress
  | [] => .complete p
  | .word .separator _ :: rest => calendarTime p rest
  | rest => .loose p rest

/-- What follows the year of a calendar date: a month and a day, a month, or neither. -/
def calendarMonth (p : Parts) (year : Int) : List Token → Progress
  | .symbol 45 :: .number m 2 :: rest =>
    if 1 ≤ m && m ≤ 12 then
      match rest with
      | .symbol 45 :: .number d 2 :: rest' =>
        if isDay d then calendarRest { p with day := [year, m, d] } rest'
        else .loose { p with day := [year, m] } (.number d 2 :: rest')
      | .symbol 45 :: rest' => .loose { p with day := [year, m] } rest'
      | _ => calendarRest { p with day := [year, m] } rest
    else .loose { p with day := [year] } (.number m 2 :: rest)
  | .symbol 45 :: rest => .loose { p with day := [year] } rest
  | rest => calendarRest { p with day := [year] } rest

/-- The calendar form: a year of four digits, or of six with a sign. -/
def calendarDate : List Token → Progress
  | .number y 4 :: rest => calendarMonth {} y rest
  | .symbol s :: rest =>
    if s == 43 || s == 45 then
      match rest with
      | .number y 6 :: rest' =>
        if s == 45 && y == 0 then .loose {} (.symbol s :: rest')
        else calendarMonth {} (if s == 45 then -(y : Int) else y) rest'
      | _ => .loose {} (.symbol s :: rest)
    else .loose {} (.symbol s :: rest)
  | rest => .loose {} rest

/-! ### The loose form -/

/-- The tokens without a sign that is next. -/
def skipSymbol (u : UInt16) : List Token → List Token
  | .symbol v :: rest => if v == u then rest else .symbol v :: rest
  | rest => rest

/-- Whether a time may end before what follows: nothing, a blank, universal time, or a sign. -/
def endsTime : List Token → Bool
  | [] | .blank :: _ => true
  | .word (.zone 0) 1 :: _ => true
  | .symbol u :: _ => u == 43 || u == 45
  | _ => false

/-- A number, with the tokens after it. -/
def looseNumber (p : Parts) (n : Nat) (rest : List Token) : Option (Parts × List Token) :=
  let p := { p with numbered := true }
  match rest with
  | .symbol 58 :: .symbol 58 :: rest' =>
    if p.time.isEmpty then some ({ p with time := [n, 0] }, rest') else none
  | .symbol 58 :: rest' => (p.addTime n).map fun p => (p, skipSymbol 46 rest')
  | _ =>
    let rest' := skipSymbol 46 rest
    if rest'.length < rest.length && p.expectsTime n then
      match p.addTime n, rest' with
      | some p, .number f k :: rest'' => some (p.endTime (thousandths f k), rest'')
      | _, _ => none
    else if p.expectsZone n then some ({ p with zoneMinute := some n }, rest')
    else if p.expectsTime n then
      if endsTime rest' then some (p.endTime n, rest') else none
    else (p.addDay n).map fun p => (p, skipSymbol 45 rest')

/-- A word, with the tokens after it. -/
def looseWord (p : Parts) (m : Meaning) (rest : List Token) : Option (Parts × List Token) :=
  let garbage : Option (Parts × List Token) :=
    if p.numbered then none
    else match rest with
      | .number .. :: _ => none
      | _ => some (p, rest)
  match m with
  | .half hours =>
    if p.time.isEmpty then garbage else some ({ p with hourOffset := some hours }, rest)
  | .month n => some ({ p with namedMonth := some n }, skipSymbol 45 rest)
  | .zone hours => if p.numbered then some (p.setZone hours, rest) else garbage
  | _ => garbage

/-- A sign that starts a zone, with the tokens after it. -/
def looseZone (p : Parts) (behind : Bool) (rest : List Token) : Option (Parts × List Token) :=
  let (n, length, rest') : Nat × Nat × List Token := match rest with
    | .number n k :: r => (n, k, r)
    | r => (0, 0, r)
  let p := { p with zoneBehind := some behind, numbered := true }
  match rest' with
  | .symbol 58 :: _ => some ({ p with zoneHour := some n, zoneMinute := none }, rest')
  | _ =>
    if length == 1 || length == 2 then
      some ({ p with zoneHour := some n, zoneMinute := some 0 }, rest')
    else if length == 3 || length == 4 then
      some ({ p with zoneHour := some (n / 100), zoneMinute := some (n % 100) }, rest')
    else none

/-- One token of the loose form, with the tokens after it. -/
def looseStep (p : Parts) (t : Token) (rest : List Token) : Option (Parts × List Token) :=
  match t with
  | .number n _ => looseNumber p n rest
  | .word m _ => looseWord p m rest
  | .symbol u =>
    if (u == 43 || u == 45) && (p.isUniversal || !p.time.isEmpty) then looseZone p (u == 45) rest
    else if (u == 43 || u == 45 || u == 41) && p.numbered then none
    else some (p, rest)
  | _ => some (p, rest)

/-- The parts that the tokens add, up to a number of steps. -/
def loose : Nat → Parts → List Token → Option Parts
  | _, p, [] => some p
  | 0, _, _ :: _ => none
  | fuel + 1, p, t :: rest => (looseStep p t rest).bind fun (p, rest) => loose fuel p rest

/-- **The time of a date**, in milliseconds since the start of 1970, if the text is a date. -/
def parse? (t : Text) : Option Int :=
  match calendarDate (tokens t) with
  | .complete p => { p with calendar := true }.instant?
  | .impossible => none
  | .loose p rest =>
    (loose (rest.length + 1) { p with numbered := !p.day.isEmpty } rest).bind Parts.instant?

end LineAgents.Date
