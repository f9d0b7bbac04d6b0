import RouteAtlas.CommandLine.Basic

/-!
# Help on command lines

What a program prints when it does not carry out a call: the help or the version if the call asks
for it, and otherwise what is wrong with the arguments. `Usage.explain` is the text of every fault.
-/

namespace RouteAtlas.CommandLine

/-- A text in upper case, with bars in the place of dashes. -/
def upper (s : String) : String := (s.map fun c => if c = '-' then '_' else c).toUpper

/-- The position as the help shows it. -/
def Position.label (p : Position) : String :=
  if p.isRequired then "<" ++ upper p.name ++ ">" else "[" ++ upper p.name ++ "]"

/-- The option as the help shows it. -/
def Choice.label (c : Choice) : String :=
  if c.valueName.isEmpty then "--" ++ c.long else "--" ++ c.long ++ " <" ++ c.valueName ++ ">"

/-- The option behind its letter, or behind blanks as wide as one. -/
def Choice.entry (c : Choice) : String :=
  match c.short with
  | some letter => "-" ++ letter.toString ++ ", " ++ c.label
  | none => "    " ++ c.label

/-- Lines of two columns, the second of which begins at the same place in each line. -/
def columns (rows : List (String × String)) : String :=
  let width := rows.foldl (fun n row => max n row.1.length) 0
  String.join (rows.map fun (left, right) =>
    "  " ++ left ++ "".pushn ' ' (width - left.length + 2) ++ right ++ "\n")

namespace Usage

variable (u : Usage)

/-- How the program is called. -/
def summary : String :=
  "Usage: " ++ u.program ++ " [OPTIONS]" ++ String.join (u.positions.map (" " ++ ·.label)) ++ "\n"

/-- The help. -/
def help : String :=
  u.about ++ "\n\n" ++ u.summary ++
    "\nArguments:\n" ++ columns (u.positions.map fun p => (p.label, p.note)) ++
    "\nOptions:\n" ++ columns (u.choices.map fun c => (c.entry, c.note))

/-- What the help calls an argument. -/
def label (name : String) : String :=
  match u.choices.find? fun c => c.long = name, u.positions.find? fun p => p.name = name with
  | some c, _ => c.label
  | none, some p => p.label
  | none, none => name

/-- What is wrong with the arguments of a call. -/
def reason : Fault → String
  | .unknown argument => "unexpected argument '" ++ argument ++ "' found"
  | .noValue name => "a value is required for '" ++ u.label name ++ "' but none was supplied"
  | .badChoice name value | .badNumber name value =>
    "invalid value '" ++ value ++ "' for '" ++ u.label name ++ "'"
  | .repeated name => "the argument '" ++ u.label name ++ "' cannot be used multiple times"
  | .unneededValue name => "unexpected value for '--" ++ name ++ "' found; no more were expected"
  | .missing names =>
    "the following required arguments were not provided:" ++
      String.join (names.map fun name => "\n  " ++ u.label name)
  | .help => "help was asked for"
  | .version => "the version was asked for"

/-- What the program prints in the place of a call. -/
def explain : Fault → String
  | .help => u.help
  | .version => u.program ++ " " ++ u.version ++ "\n"
  | fault =>
    "error: " ++ u.reason fault ++ "\n\n" ++ u.summary ++
      "\nFor more information, try '--help'.\n"

end Usage

end RouteAtlas.CommandLine
