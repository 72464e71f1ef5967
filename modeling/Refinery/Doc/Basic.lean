import Refinery.Decimal
import Refinery.Failure

namespace Refinery

open Text

/-!
# Days and moments

Days are counted from the start of 1970.
-/

structure Date where
  year : Nat
  month : Nat
  day : Nat
  deriving DecidableEq

structure Moment where
  date : Date
  hour : Nat
  minute : Nat
  second : Nat
  microsecond : Nat
  zone : Option Int
  deriving DecidableEq

namespace Calendar

def daysFromCivil (year : Int) (month day : Nat) : Int :=
  let y := if month ≤ 2 then year - 1 else year
  let era := Int.fdiv y 400
  let yoe := y - era * 400
  let shifted : Int := if 2 < month then (month : Int) - 3 else (month : Int) + 9
  let doy := (153 * shifted + 2) / 5 + (day : Int) - 1
  let doe := yoe * 365 + yoe / 4 - yoe / 100 + doy
  era * 146097 + doe - 719468

def civilFromDays (days : Int) : Int × Nat × Nat :=
  let z := days + 719468
  let era := Int.fdiv z 146097
  let doe := z - era * 146097
  let yoe := (doe - doe / 1460 + doe / 36524 - doe / 146096) / 365
  let doy := doe - (365 * yoe + yoe / 4 - yoe / 100)
  let mp := (5 * doy + 2) / 153
  let day := (doy - (153 * mp + 2) / 5 + 1).toNat
  let month := (if mp < 10 then mp + 3 else mp - 9).toNat
  let year := yoe + era * 400 + (if month ≤ 2 then 1 else 0)
  (year, month, day)

def isLeap (year : Nat) : Bool :=
  year % 4 = 0 && (year % 100 ≠ 0 || year % 400 = 0)

def daysInMonth (year month : Nat) : Nat :=
  if month = 2 then (if isLeap year then 29 else 28)
  else if month = 4 || month = 6 || month = 9 || month = 11 then 30
  else 31

end Calendar

namespace Date

def text (d : Date) : String :=
  padLeft '0' 4 (toString d.year) ++ "-" ++ padLeft '0' 2 (toString d.month) ++ "-" ++
    padLeft '0' 2 (toString d.day)

def days (d : Date) : Int :=
  Calendar.daysFromCivil d.year d.month d.day

end Date

namespace Moment

def clock (m : Moment) : String :=
  let two (n : Nat) := padLeft '0' 2 (toString n)
  let zone := match m.zone with
    | none => ""
    | some minutes =>
      (if minutes < 0 then "-" else "+") ++ two (minutes.natAbs / 60) ++ ":" ++ two (minutes.natAbs % 60)
  two m.hour ++ ":" ++ two m.minute ++ ":" ++ two m.second ++
    (if m.microsecond = 0 then "" else "." ++ padLeft '0' 6 (toString m.microsecond)) ++ zone

def text (separator : String) (m : Moment) : String :=
  m.date.text ++ separator ++ m.clock

def instant (m : Moment) : Int :=
  ((m.date.days * 24 + m.hour) * 60 + m.minute - m.zone.getD 0) * 60000000 + m.second * 1000000 + m.microsecond

def comparable (a b : Moment) : Bool :=
  a.zone.isSome == b.zone.isSome

def same (a b : Moment) : Bool :=
  comparable a b && a.instant == b.instant

end Moment

/-!
## Documents

The data that configuration files hold and templates are filled with.
-/

open Decimal (Double)

inductive Doc where
  | null
  | bool (value : Bool)
  | int (value : Int)
  | real (value : Double)
  | text (value : String)
  | bytes (value : ByteArray)
  | date (value : Date)
  | moment (value : Moment)
  | list (items : List Doc)
  | tuple (items : List Doc)
  | set (items : List Doc)
  | map (fields : List (Doc × Doc))
  deriving Inhabited

namespace Doc

def number? : Doc -> Option (Int ⊕ Double)
  | bool value => some (.inl (if value then 1 else 0))
  | int value => some (.inl value)
  | real value => some (.inr value)
  | _ => none

open Decimal (sameNumber)

mutual

def same : Doc -> Doc -> Bool
  | null, other => match other with | null => true | _ => false
  | bool a, other => match other.number? with | some n => sameNumber (.inl (if a then 1 else 0)) n | none => false
  | int a, other => match other.number? with | some n => sameNumber (.inl a) n | none => false
  | real a, other => match other.number? with | some n => sameNumber (.inr a) n | none => false
  | text a, other => match other with | text b => a == b | _ => false
  | bytes a, other => match other with | bytes b => a == b | _ => false
  | date a, other => match other with | date b => a == b | _ => false
  | moment a, other => match other with | moment b => a.same b | _ => false
  | tuple a, other => match other with | tuple b => sameItems a b | _ => false
  | list a, other => match other with | list b => sameItems a b | _ => false
  | set a, other => match other with | set b => a.length == b.length && within a b | _ => false
  | map a, other =>
    match other with | map b => a.length == b.length && sameFields a b | _ => false

def sameItems : List Doc -> List Doc -> Bool
  | [], [] => true
  | a :: as, b :: bs => same a b && sameItems as bs
  | _, _ => false

def within : List Doc -> List Doc -> Bool
  | [], _ => true
  | a :: as, bs => bs.any (fun b => same a b) && within as bs

def sameFields : List (Doc × Doc) -> List (Doc × Doc) -> Bool
  | [], _ => true
  | (key, value) :: rest, others =>
    others.any (fun other => same key other.1 && same value other.2) && sameFields rest others

end

mutual

def isKey : Doc -> Bool
  | list _ | set _ | map _ => false
  | tuple items => areKeys items
  | _ => true

def areKeys : List Doc -> Bool
  | [] => true
  | item :: rest => isKey item && areKeys rest

end

def lookup (key : Doc) (fields : List (Doc × Doc)) : Option Doc :=
  (fields.find? fun field => same field.1 key).map (·.2)

def assign (key value : Doc) : List (Doc × Doc) -> List (Doc × Doc)
  | [] => [(key, value)]
  | (k, v) :: rest => if same k key then (k, value) :: rest else (k, v) :: assign key value rest

def ofPairs (pairs : List (Doc × Doc)) : Doc :=
  map (pairs.foldl (fun fields pair => assign pair.1 pair.2 fields) [])

def fields (pairs : List (String × Doc)) : Doc :=
  map (pairs.map fun pair => (text pair.1, pair.2))

def asText? : Doc -> Option String
  | text value => some value
  | _ => none

def truthy : Doc -> Bool
  | null => false
  | bool value => value
  | int value => value != 0
  | real value => value.toFloat != 0.0
  | text value => value != ""
  | bytes value => value.size != 0
  | date _ | moment _ => true
  | list items | tuple items | set items => !items.isEmpty
  | map fields => !fields.isEmpty

def quotedBytes (value : ByteArray) : String :=
  let chars := value.toList.map fun b => Char.ofNat b.toNat
  let quote := if chars.contains '\'' && !chars.contains '"' then '"' else '\''
  let one (c : Char) : List Char :=
    if c = quote || c = '\\' then ['\\', c]
    else if c = '\n' then ['\\', 'n']
    else if c = '\r' then ['\\', 'r']
    else if c = '\t' then ['\\', 't']
    else if 32 ≤ c.toNat && c.toNat < 127 then [c]
    else '\\' :: 'x' :: (hex 2 c.toNat).toList
  String.ofList ('b' :: quote :: (chars.flatMap one ++ [quote]))

mutual

def shown : Doc -> String
  | null => "None"
  | bool value => if value then "True" else "False"
  | int value => toString value
  | real value => Decimal.text value
  | text value => quoted value
  | bytes value => quotedBytes value
  | date value => s!"datetime.date({value.year}, {value.month}, {value.day})"
  | moment value =>
    s!"datetime.datetime({value.date.year}, {value.date.month}, {value.date.day}, " ++ s!"{value.hour}, {value.minute}" ++
      (if value.second = 0 && value.microsecond = 0 then "" else s!", {value.second}") ++
      (if value.microsecond = 0 then "" else s!", {value.microsecond}") ++ (match value.zone with
        | none => ""
        | some 0 => ", tzinfo=datetime.timezone.utc"
        | some minutes =>
          let days := if minutes < 0 then "days=-1, " else ""
          let seconds := (if minutes < 0 then minutes + 1440 else minutes) * 60
          s!", tzinfo=datetime.timezone(datetime.timedelta({days}seconds={seconds}))") ++ ")"
  | list items => "[" ++ join ", " (shownItems items) ++ "]"
  | tuple items =>
    match shownItems items with
    | [one] => "(" ++ one ++ ",)"
    | several => "(" ++ join ", " several ++ ")"
  | set items =>
    if items.isEmpty then "set()" else "\x7b" ++ join ", " (shownItems items) ++ "\x7d"
  | map fields => "\x7b" ++ join ", " (shownFields fields) ++ "\x7d"

def shownItems : List Doc -> List String
  | [] => []
  | item :: rest => shown item :: shownItems rest

def shownFields : List (Doc × Doc) -> List String
  | [] => []
  | (key, value) :: rest => (shown key ++ ": " ++ shown value) :: shownFields rest

end

def display : Doc -> String
  | text value => value
  | date value => value.text
  | moment value => value.text " "
  | other => other.shown

end Doc

namespace Doc

/-!
## The order of documents

Documents of different kinds have no order.
-/

def bytesLess : List UInt8 -> List UInt8 -> Bool
  | _, [] => false
  | [], _ :: _ => true
  | a :: as, b :: bs => a < b || (a == b && bytesLess as bs)

mutual

def less (a b : Doc) : Except Failure Bool :=
  match a, b with
  | text a, text b => .ok (!Text.le b a)
  | bytes a, bytes b => .ok (bytesLess a.toList b.toList)
  | date a, date b => .ok (a.days < b.days)
  | moment a, moment b =>
    if a.comparable b then .ok (a.instant < b.instant) else .error .wrongKind
  | list a, list b => lessItems a b
  | tuple a, tuple b => lessItems a b
  | set a, set b => .ok (a.length < b.length && within a b)
  | a, b =>
    match a.number?, b.number? with
    | some x, some y => .ok (Decimal.lessNumber x y)
    | _, _ => .error .wrongKind

def lessItems : List Doc -> List Doc -> Except Failure Bool
  | _, [] => .ok false
  | [], _ :: _ => .ok true
  | a :: as, b :: bs => if same a b then lessItems as bs else less a b

end

end Doc
end Refinery
