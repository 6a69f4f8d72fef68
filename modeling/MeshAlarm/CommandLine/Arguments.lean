/-!
# Arguments

Arguments are options and operands. An option starts with a hyphen and has more characters; it is a
flag, or it has a value, given behind an equals sign or as the next argument, whatever that is. Two
hyphens alone end the options. Options may stand among the operands, or have to stand before the
first one, which together with all that follows it then belongs to someone else.

What does not fit this grammar is refused. Texts have no meaning yet at this stage: an option that
is given repeatedly counts by its last value only, and only that value is looked at.

## Main definitions

* `OptionForm`: what may follow the name of an option
* `Placement`: where options may stand
* `Arguments`: the options given, in order, and the operands
* `Arguments.read`: arguments by the options of a command
* `effective`: the options that count, in the order of their first mention
-/

namespace MeshAlarm.CommandLine

variable {ω κ : Type}

/-- What may follow the name of an option. -/
inductive OptionForm (ω : Type)
  /-- Nothing. -/
  | flag (meaning : ω)
  /-- A value. -/
  | valued (meaning : String → ω)

/-- Where options may stand. -/
inductive Placement
  /-- Before the first operand. -/
  | leading
  /-- Anywhere. -/
  | anywhere
  deriving DecidableEq, Repr

/-- The options given, in order, and the operands. -/
structure Arguments (ω : Type) where
  options : List ω := []
  operands : List String := []

namespace Arguments

/-- One more option in front. -/
def withOption (o : ω) (a : Arguments ω) : Arguments ω :=
  { a with options := o :: a.options }

/-- One more operand in front. -/
def withOperand (operand : String) (a : Arguments ω) : Arguments ω :=
  { a with operands := operand :: a.operands }

/-- Whether an argument is an option. A hyphen alone is an operand. -/
def isOption (argument : String) : Bool :=
  match argument.toList with
  | '-' :: _ :: _ => true
  | _ => false

/-- The name of an option, and its value if one follows an equals sign. -/
def splitOption (argument : String) : String × Option String :=
  let cs := argument.toList
  let name := String.ofList (cs.takeWhile (· != '='))
  match cs.dropWhile (· != '=') with
  | _ :: value => (name, some (String.ofList value))
  | [] => (name, none)

/-- Reads arguments by the options of a command; none if they do not fit. -/
def read (formOf : String → Option (OptionForm ω)) (placement : Placement) :
    List String → Option (Arguments ω)
  | [] => some {}
  | argument :: rest =>
    if argument = "--" then some { operands := rest }
    else if isOption argument then
      match formOf (splitOption argument).1, (splitOption argument).2 with
      | some (.flag meaning), none => (read formOf placement rest).map (withOption meaning)
      | some (.valued meaning), some value =>
        (read formOf placement rest).map (withOption (meaning value))
      | some (.valued meaning), none =>
        -- The next argument is the value, even if it looks like an option.
        match rest with
        | value :: rest => (read formOf placement rest).map (withOption (meaning value))
        | [] => none
      | _, _ => none
    else match placement with
      | .leading => some { operands := argument :: rest }
      | .anywhere => (read formOf placement rest).map (withOperand argument)

end Arguments

/-! ### Repeated options -/

/-- One more option: it takes the place of an earlier one of the same key. -/
def supersede [BEq κ] (key : ω → κ) (options : List ω) (o : ω) : List ω :=
  if options.any fun earlier => key earlier == key o then
    options.map fun earlier => if key earlier == key o then o else earlier
  else options ++ [o]

/-- The last option of each key, in the order in which the keys are first mentioned. -/
def effective [BEq κ] (key : ω → κ) (options : List ω) : List ω :=
  options.foldl (supersede key) []

end MeshAlarm.CommandLine
