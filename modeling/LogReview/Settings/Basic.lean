import LogReview.Rule.Battery
import LogReview.Settings.Integer

/-! Settings, and how they are read from a configuration value: field by field, so that every problem is
told. -/
namespace LogReview

structure Settings where
  limits : Limits := {}
  extensions : List String := [".java"]
  jobs : Int := 1
deriving Repr, DecidableEq

namespace Settings

/-- One step on the way to a part of the configuration. -/
inductive Key where
  | name (s : String)
  | index (n : Nat)
deriving Repr, DecidableEq

inductive Cause where
  | notMapping (model : String)
  | notList
  | notText
  | brokenText
  | noInteger (why : NoInteger)
  | below (bound : Int)
deriving Repr, DecidableEq

namespace Cause

def code : Cause → String
  | notMapping _ => "model_type"
  | notList => "list_type"
  | notText => "string_type"
  | brokenText => "string_unicode"
  | noInteger .otherSort => "int_type"
  | noInteger .unreadable => "int_parsing"
  | noInteger .oversized => "int_parsing_size"
  | noInteger .fractional => "int_from_float"
  | noInteger .notFinite => "finite_number"
  | below _ => "greater_than_equal"

def message : Cause → String
  | notMapping model => s!"Input should be a valid dictionary or instance of {model}"
  | notList => "Input should be a valid list"
  | notText => "Input should be a valid string"
  | brokenText => "Input should be a valid string, unable to parse raw data as a unicode string"
  | noInteger .otherSort => "Input should be a valid integer"
  | noInteger .unreadable => "Input should be a valid integer, unable to parse string as an integer"
  | noInteger .oversized => "Unable to parse input string as an integer, exceeded maximum size"
  | noInteger .fractional => "Input should be a valid integer, got a number with a fractional part"
  | noInteger .notFinite => "Input should be a finite number"
  | below bound => s!"Input should be greater than or equal to {bound}"

end Cause

/-- What is wrong, and where. -/
structure Problem where
  place : List Key
  cause : Cause
deriving Repr, DecidableEq

/-- Why a value gives no settings. -/
inductive Refusal where
  | notMapping (shape : Value.Shape)
  | otherKey
  | invalid (problems : List Problem)
deriving Repr, DecidableEq

/-- A part that is read, with all the problems that were met. -/
abbrev Checked (α : Type) := Except (List Problem) α

/-- Both parts, or the problems of both in order. -/
def both {α β γ : Type} (f : α → β → γ) (a : Checked α) (b : Checked β) : Checked γ :=
  match a, b with
  | .ok x, .ok y => .ok (f x y)
  | .ok _, .error ps => .error ps
  | .error ps, .ok _ => .error ps
  | .error ps, .error qs => .error (ps ++ qs)

def problem (place : List Key) (cause : Cause) : List Problem := [⟨place, cause⟩]

/-- A whole number that is not below the bound. -/
def integerAt (place : List Key) (bound : Int) (v : Value) : Checked Int :=
  match integerOf v with
  | .ok n => if n < bound then .error (problem place (.below bound)) else .ok n
  | .error why => .error (problem place (.noInteger why))

def textAt (place : List Key) : Value → Checked String
  | .text s => .ok s
  | .bytes bs => match textOfBytes? bs with
    | some s => .ok s
    | none => .error (problem place .brokenText)
  | _ => .error (problem place .notText)

def textsAt (place : List Key) : Nat → List Value → Checked (List String)
  | _, [] => .ok []
  | i, v :: vs => both (· :: ·) (textAt (place ++ [.index i]) v) (textsAt place (i + 1) vs)

def textListAt (place : List Key) : Value → Checked (List String)
  | .list items | .set items => textsAt place 0 items
  | _ => .error (problem place .notList)

/-- A field of a mapping, or its default. -/
def fieldAt {α : Type} (place : List Key) (entries : List (Value × Value)) (name : String) (default : α)
    (read : List Key → Value → Checked α) : Checked α :=
  match Value.lookup? entries name with
  | some v => read (place ++ [.name name]) v
  | none => .ok default

/-- The entries of a section. -/
def sectionAt {α : Type} (model : String) (read : List Key → List (Value × Value) → Checked α)
    (place : List Key) : Value → Checked α
  | .map entries => read place entries
  | _ => .error (problem place (.notMapping model))

def readLimits (place : List Key) (entries : List (Value × Value)) : Checked Limits :=
  both Limits.mk
    (fieldAt place entries "excessive_log_threshold" 5 (fun p => integerAt p 0))
    (fieldAt place entries "max_message_length" 200 (fun p => integerAt p 0))

def readScan (place : List Key) (entries : List (Value × Value)) : Checked (List String × Int) :=
  both Prod.mk
    (fieldAt place entries "extensions" [".java"] textListAt)
    (fieldAt place entries "jobs" 1 (fun p => integerAt p 1))

def read (entries : List (Value × Value)) : Checked Settings :=
  both (fun limits (extensions, jobs) => ⟨limits, extensions, jobs⟩)
    (fieldAt [] entries "rules" {} (sectionAt "RulesConfig" readLimits))
    (fieldAt [] entries "scan" ([".java"], 1) (sectionAt "ScanConfig" readScan))

def isText : Value → Bool
  | .text _ => true
  | _ => false

/-- Settings from a mapping with names for keys; unknown names are passed over. -/
def ofValue : Value → Except Refusal Settings
  | .map entries =>
    if !entries.all (fun e => isText e.1) then .error .otherKey
    else match read entries with
      | .ok s => .ok s
      | .error ps => .error (.invalid ps)
  | v => .error (.notMapping v.shape)

end Settings

end LogReview
