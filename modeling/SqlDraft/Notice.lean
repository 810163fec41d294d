import SqlDraft.Draft

/-!
# Notices

Whoever looks after the service is told of every draft.  No mail is sent: the notice goes to the
log, and a log line that cannot be handled spoils nothing.
-/

namespace SqlDraft

/-! ## Dates -/

/-- A day of the calendar. -/
structure Date where
  year : Nat
  month : Nat
  day : Nat
  deriving DecidableEq, Repr

namespace Date

/-- Why a text names no day. -/
inductive Fault
  | malformed (text : Text)
  | noSuchYear (year : Nat)
  | noSuchMonth
  | noSuchDay
  deriving DecidableEq, Repr

def Fault.message : Fault → Text
  | .malformed text => "Invalid isoformat string: " ++ Text.quoted text
  | .noSuchYear year => "year " ++ Nat.toDigits 10 year ++ " is out of range"
  | .noSuchMonth => "month must be in 1..12"
  | .noSuchDay => "day is out of range for month"

/-- The year has a 29th of February. -/
def isLeap (year : Nat) : Bool := year % 4 = 0 && (year % 100 ≠ 0 || year % 400 = 0)

/-- The number of days of a month. -/
def daysIn (year month : Nat) : Nat :=
  if month = 2 then if isLeap year then 29 else 28
  else if month = 4 ∨ month = 6 ∨ month = 9 ∨ month = 11 then 30
  else 31

/-- The day with these numbers. -/
def of? (year month day : Nat) : Except Fault Date :=
  if year = 0 then .error (.noSuchYear year)
  else if month = 0 ∨ 12 < month then .error .noSuchMonth
  else if day = 0 ∨ daysIn year month < day then .error .noSuchDay
  else .ok ⟨year, month, day⟩

/-- The number that a run of ASCII digits writes. -/
def number? (digits : Text) : Option Nat :=
  if digits.all Char.isDigit then
    some (digits.foldl (fun value c => value * 10 + (c.toNat - '0'.toNat)) 0)
  else none

/-- Reads a day: four digits, two and two, with a hyphen between each or with none. -/
def read (text : Text) : Except Fault Date :=
  let parts? :=
    if text.length = 8 then some (text.take 4, (text.drop 4).take 2, text.drop 6)
    else
      match Text.pieces '-' text with
      | [year, month, day] =>
        if year.length = 4 ∧ month.length = 2 ∧ day.length = 2 then some (year, month, day)
        else none
      | _ => none
  let numbers? := parts?.bind fun (year, month, day) => do
    return (← number? year, ← number? month, ← number? day)
  match numbers? with
  | some (year, month, day) => of? year month day
  | none => .error (.malformed text)

/-- A number with at least as many digits as the width says. -/
def padded (width value : Nat) : Text :=
  let digits := Nat.toDigits 10 value
  List.replicate (width - digits.length) '0' ++ digits

/-- The day as it is written: year, month and day with hyphens between them. -/
def text (date : Date) : Text :=
  padded 4 date.year ++ "-" ++ padded 2 date.month ++ "-" ++ padded 2 date.day

end Date

/-! ## Notices -/

/-- The notice of a draft for a request. -/
def noticeText (recipient : Text) (today : Date) (request : Text) (draft : Draft) : Text :=
  Text.joinWith "\n"
    ["Simulated Email:", "To: " ++ recipient, "Subject: New SQL Request - " ++ today.text, "Body:",
      "Request: " ++ request, "Script: " ++ draft.script, "Explanation: " ++ draft.explanation]

/-- Sends notices to one address. -/
structure Notifier where
  recipient : Text
  enabled : Bool := true
  deriving DecidableEq, Repr

/-- Sends a notice: whether it was delivered, and what the log says.  With `handlerFails` the log
takes nothing but errors. -/
def Notifier.send (notifier : Notifier) (handlerFails : Bool) (today : Date) (request : Text)
    (draft : Draft) : Bool × List Log.Record :=
  if !notifier.enabled then (false, [])
  else if handlerFails then
    let message := "notification failed to=" ++ notifier.recipient
    (false, [⟨.error, .notices, message, some .handlerFailed⟩])
  else (true, [⟨.info, .notices, noticeText notifier.recipient today request draft, none⟩])

end SqlDraft
