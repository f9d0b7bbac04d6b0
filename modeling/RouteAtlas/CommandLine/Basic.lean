/-!
# Command lines

A `Usage` says which options and positional arguments a program takes. `Usage.read` goes through the
arguments of a call from left to right. An option waits for its value until the next argument; what
was given is checked when the next option or position begins, so of several faults the one that is
noticed first counts.
-/

namespace RouteAtlas.CommandLine

/-- What a value has to be. -/
inductive ValueKind where
  /-- Any text. -/
  | text
  /-- A text that is not empty. -/
  | path
  /-- A decimal number up to a limit, with or without a plus sign. -/
  | number (limit : Nat)
  /-- One of several texts. -/
  | choice (texts : List String)
deriving DecidableEq, Repr, Inhabited

/-- What an option is for. -/
inductive Purpose where
  /-- It sets a value, once. -/
  | single (kind : ValueKind)
  /-- It adds a value. -/
  | repeated (kind : ValueKind)
  /-- It is given or not. -/
  | switch
  | help
  | version
deriving DecidableEq, Repr, Inhabited

/-- An option. -/
structure Choice where
  /-- The name behind two dashes. -/
  long : String
  /-- The letter behind one dash. -/
  short : Option Char := none
  purpose : Purpose
  /-- What the help calls its value. -/
  valueName : String := ""
  /-- What the help says of it. -/
  note : String := ""
deriving DecidableEq, Repr, Inhabited

/-- A positional argument. -/
structure Position where
  name : String
  kind : ValueKind
  isRequired : Bool
  /-- What the help says of it. -/
  note : String := ""
deriving DecidableEq, Repr, Inhabited

/-- What a program takes. -/
structure Usage where
  /-- The name of the program. -/
  program : String
  /-- The version of the program. -/
  version : String
  /-- What the program does. -/
  about : String
  positions : List Position
  choices : List Choice
deriving DecidableEq, Repr, Inhabited

/-- Why the arguments of a call are not carried out. -/
inductive Fault where
  /-- The program takes no such argument. -/
  | unknown (argument : String)
  /-- A value is missing or empty. -/
  | noValue (name : String)
  /-- The value is none of the possible ones. -/
  | badChoice (name value : String)
  /-- The value is no number within the limit. -/
  | badNumber (name value : String)
  /-- The option was given twice. -/
  | repeated (name : String)
  /-- The option takes no value. -/
  | unneededValue (name : String)
  /-- Positional arguments are missing. -/
  | missing (names : List String)
  /-- The call asks for help only. -/
  | help
  /-- The call asks for the version only. -/
  | version
deriving DecidableEq, Repr, Inhabited

/-- The exit code of a call that is not carried out. -/
def Fault.exitCode : Fault → Nat
  | .help | .version => 0
  | _ => 2

/-- The arguments of a call: the names that were given, with their values. -/
structure Given where
  values : List (String × List String) := []
deriving DecidableEq, Repr, Inhabited

namespace Given

/-- Whether an argument was given. -/
def contains (g : Given) (name : String) : Bool := (g.values.lookup name).isSome

/-- The values of an argument. -/
def all (g : Given) (name : String) : List String := (g.values.lookup name).getD []

/-- The value of an argument. -/
def get? (g : Given) (name : String) : Option String := (g.all name).head?

/-- Adds values of an argument. -/
def add (g : Given) (name : String) (values : List String) : Given :=
  if g.contains name then
    ⟨g.values.map fun v => if v.1 = name then (name, v.2 ++ values) else v⟩
  else ⟨g.values ++ [(name, values)]⟩

end Given

/-- The value of decimal digits. -/
def digitsValue (cs : List Char) : Nat := cs.foldl (fun n c => 10 * n + (c.toNat - '0'.toNat)) 0

/-- The number that a text writes. -/
def number? (s : String) : Option Nat :=
  let digits := match s.toList with
    | '+' :: cs => cs
    | cs => cs
  if digits.isEmpty || !digits.all Char.isDigit then none else some (digitsValue digits)

/-- The fault of a value, if it has one. -/
def ValueKind.fault? (name value : String) : ValueKind → Option Fault
  | .text => none
  | .path => if value.isEmpty then some (.noValue name) else none
  | .number limit =>
    if (number? value).any (· ≤ limit) then none else some (.badNumber name value)
  | .choice texts => if texts.contains value then none else some (.badChoice name value)

/-- An argument whose values are not checked yet. -/
structure Pending where
  name : String
  kind : ValueKind
  isRepeatable : Bool
  values : List String
deriving DecidableEq, Repr, Inhabited

/-- How far the arguments of a call were read. -/
structure Progress where
  given : Given := {}
  pending : Option Pending := none
  /-- The positional arguments that may still come. -/
  positions : List Position
  /-- Whether only positional arguments may come. -/
  isTrailing : Bool := false
deriving DecidableEq, Repr, Inhabited

namespace Progress

/-- Checks the values of an argument and keeps them. -/
def keep (p : Progress) (a : Pending) : Except Fault Progress :=
  if a.values.isEmpty then .error (.noValue a.name)
  else if !a.isRepeatable && p.given.contains a.name then .error (.repeated a.name)
  else match a.values.findSome? fun value => a.kind.fault? a.name value with
    | some fault => .error fault
    | none => .ok { p with given := p.given.add a.name a.values }

/-- Checks and keeps what is pending. -/
def settle (p : Progress) : Except Fault Progress :=
  match p.pending with
  | none => .ok p
  | some a => keep { p with pending := none } a

/-- Whether an option waits for its value. -/
def isWaiting (p : Progress) : Bool := p.pending.any fun a => a.values.isEmpty

/-- Carries out an option without a value. -/
def give (p : Progress) (c : Choice) : Except Fault Progress := do
  let p ← p.settle
  match c.purpose with
  | .help => throw .help
  | .version => throw .version
  | _ =>
    if p.given.contains c.long then throw (.repeated c.long)
    return { p with given := p.given.add c.long [] }

/-- Begins an option of a kind, whose value may be attached. -/
def begin (p : Progress) (c : Choice) (kind : ValueKind) (attached : Option String) :
    Except Fault Progress := do
  let p ← p.settle
  let isRepeatable := c.purpose = .repeated kind
  match attached with
  | some value => p.keep ⟨c.long, kind, isRepeatable, [value]⟩
  | none => return { p with pending := some ⟨c.long, kind, isRepeatable, []⟩ }

/-- The kind of the values of an option. -/
def kindOf? : Purpose → Option ValueKind
  | .single kind | .repeated kind => some kind
  | _ => none

/-- Reads an argument that names an option, without its dashes. -/
def readLong (u : Usage) (p : Progress) (name : String) (value : Option String) :
    Except Fault Progress :=
  match u.choices.find? fun c => c.long = name with
  | none => .error (.unknown ("--" ++ name))
  | some c =>
    match kindOf? c.purpose, value with
    | some kind, _ => p.begin c kind value
    | none, some _ => .error (.unneededValue name)
    | none, none => p.give c

/-- Reads the letters behind one dash. The first letter of an option with a value takes the rest. -/
def readShort (u : Usage) (p : Progress) : List Char → Except Fault Progress
  | [] => .ok p
  | letter :: rest =>
    match u.choices.find? fun c => c.short = some letter with
    | none => .error (.unknown ("-" ++ letter.toString))
    | some c =>
      match kindOf? c.purpose with
      | none => (p.give c).bind fun p => readShort u p rest
      | some kind =>
        p.begin c kind <| match rest with
          | [] => none
          | '=' :: value => some (String.ofList value)
          | value => some (String.ofList value)

/-- Reads a positional argument. -/
def readPosition (p : Progress) (argument : String) : Except Fault Progress :=
  match p.positions with
  | [] => .error (.unknown argument)
  | next :: positions => do
    let p ← p.settle
    return { p with pending := some ⟨next.name, next.kind, false, [argument]⟩, positions }

/-- Reads the value that an option waits for, or a positional argument. -/
def readValue (p : Progress) (argument : String) : Except Fault Progress :=
  match p.pending with
  | some a =>
    if a.values.isEmpty then .ok { p with pending := some { a with values := [argument] } }
    else p.readPosition argument
  | none => p.readPosition argument

/-- A name and the value attached to it. -/
def splitValue (cs : List Char) : String × Option String :=
  match cs.span (· ≠ '=') with
  | (name, '=' :: value) => (String.ofList name, some (String.ofList value))
  | (name, _) => (String.ofList name, none)

/-- Reads an argument. -/
def readArgument (u : Usage) (p : Progress) (argument : String) : Except Fault Progress :=
  if p.isTrailing then p.readPosition argument
  else match argument.toList with
    | ['-', '-'] => .ok { p with isTrailing := true }
    | '-' :: '-' :: cs =>
      let (name, value) := splitValue cs
      readLong u p name value
    | '-' :: c :: cs => readShort u p (c :: cs)
    | _ => p.readValue argument

end Progress

/-- Reads the arguments of a call. -/
def Usage.read (u : Usage) (arguments : List String) : Except Fault Given := do
  let p ← arguments.foldlM (Progress.readArgument u) { positions := u.positions }
  let p ← p.settle
  let missing := u.positions.filter fun position =>
    position.isRequired && !p.given.contains position.name
  if !missing.isEmpty then throw (.missing (missing.map Position.name))
  return p.given

end RouteAtlas.CommandLine
