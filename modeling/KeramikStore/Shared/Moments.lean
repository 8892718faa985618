import KeramikStore.Library.Text
import KeramikStore.Shared.ValueObjects

/-!
# Dates and their texts

The database gives dates. One that has been through JSON, in a response or in the cache, is
the text that `toISOString` makes of it. The texts of the host are supplied; those of the
proleptic Gregorian calendar are one choice.
-/

set_option autoImplicit false

namespace KeramikStore
open Library.Text

/-- A date of the database, or the text that JSON has made of it. -/
inductive Moment where
  | date (d : Date)
  | text (s : String)
deriving DecidableEq

/-- The dates of the host. `reread s` is `new Date(s).toISOString()`, where that does not
throw. -/
structure DateHost where
  toISOString : Date → String
  reread : String → Option String

structure DateHost.Documented (dates : DateHost) : Prop where
  reread_toISOString : ∀ d, dates.reread (dates.toISOString d) = some (dates.toISOString d)
  filled : ∀ d, dates.toISOString d ≠ ""

namespace Moment

def json (dates : DateHost) : Moment → String
  | date d => dates.toISOString d
  | text s => s

def textNormalised (dates : DateHost) (s : String) : Except Error (Option String) :=
  if s = "" then .ok none
  else match dates.reread s with
    | some again => .ok (some again)
    | none => .error (.failure "Invalid time value")

def normalised (dates : DateHost) : Option Moment → Except Error (Option String)
  | none => .ok none
  | some (date d) => .ok (some (dates.toISOString d))
  | some (text s) => textNormalised dates s

theorem normalised_date (dates : DateHost) (d : Option Date) :
    normalised dates (d.map date) = .ok (d.map dates.toISOString) := by
  cases d <;> rfl

theorem normalised_json (dates : DateHost) (documented : dates.Documented) (d : Option Date) :
    normalised dates (d.map fun x => text (dates.toISOString x)) =
      .ok (d.map dates.toISOString) := by
  cases d with
  | none => rfl
  | some d =>
    show textNormalised dates (dates.toISOString d) = .ok (some (dates.toISOString d))
    unfold textNormalised
    rw [if_neg (documented.filled d), documented.reread_toISOString]

end Moment

/-! The texts of the calendar, with years of 400 in cycles of 146097 days that begin in
March. -/

namespace Calendar

structure Day where
  year : ℤ
  month : ℕ
  day : ℕ
deriving DecidableEq

def ofDays (n : ℤ) : Day :=
  let shifted := n + 719468
  let cycle := shifted / 146097
  let ofCycle := (shifted % 146097).toNat
  let year := (ofCycle - ofCycle / 1460 + ofCycle / 36524 - ofCycle / 146096) / 365
  let ofYear := ofCycle - (365 * year + year / 4 - year / 100)
  let march := (5 * ofYear + 2) / 153
  let month := if march < 10 then march + 3 else march - 9
  { year := year + cycle * 400 + (if month ≤ 2 then 1 else 0)
    month := month
    day := ofYear - (153 * march + 2) / 5 + 1 }

def padded (width n : ℕ) : List Char :=
  List.replicate (width - (digits n).length) '0' ++ digits n

def yearText (year : ℤ) : List Char :=
  if 0 ≤ year ∧ year ≤ 9999 then padded 4 year.toNat
  else (if year < 0 then '-' else '+') :: padded 6 year.natAbs

def isoText (d : Date) : List Char :=
  let day := ofDays (d / 86400000)
  let ms := (d % 86400000).toNat
  yearText day.year ++ '-' :: (padded 2 day.month ++ '-' :: (padded 2 day.day ++
    'T' :: (padded 2 (ms / 3600000) ++ ':' :: (padded 2 (ms / 60000 % 60) ++
      ':' :: (padded 2 (ms / 1000 % 60) ++ '.' :: (padded 3 (ms % 1000) ++ ['Z']))))))

def host : DateHost where
  toISOString d := String.ofList (isoText d)
  reread s := some s

theorem host_documented : host.Documented where
  reread_toISOString _ := rfl
  filled d empty := by
    have chars := congrArg String.toList empty
    rw [host, String.toList_ofList, isoText] at chars
    exact absurd chars (by simp)

example : host.toISOString 1767139199999 = "2025-12-30T23:59:59.999Z" := by decide +kernel

end Calendar

end KeramikStore
