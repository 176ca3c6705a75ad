import ErDiagram.Dot.Settings
import ErDiagram.Text.Quoted

set_option autoImplicit false

/-!
# Arguments of the command line

An argument is a switch, the value of a switch, or nothing that is known.  A long name may be cut
short as long as one switch fits, and its value may follow an equals sign.  Letters may be joined
behind one dash: what follows a letter is its value if it takes one, and further letters otherwise.
Behind two lone dashes nothing is a switch.
-/

namespace ErDiagram

/-! ## Switches

Everything that can be said on the command line is said by a switch.  A switch has a long name
behind two dashes, most have a letter behind one dash, and most take a value, which some restrict to
a few words. -/

/-- A switch of the command line. -/
inductive Switch where
  | help
  | input
  | output
  | style
  | font
  | color
  | direction
  | settings
  | catalog
  | debug
  deriving DecidableEq, Repr, Inhabited

namespace Switch

/-- All switches, in the order in which they are listed. -/
def all : List Switch :=
  [help, input, output, style, font, color, direction, settings, catalog, debug]

/-- The letter of a switch. -/
def letter? : Switch → Option Char
  | help => some 'h'
  | input => some 'i'
  | output => some 'o'
  | style => some 'n'
  | font => some 'f'
  | color => some 'c'
  | debug => some 'd'
  | _ => none

/-- The long name of a switch, without its dashes. -/
def name : Switch → Text
  | help => "help".toList
  | input => "input".toList
  | output => "output".toList
  | style => "notation".toList
  | font => "font".toList
  | color => "color".toList
  | direction => "rankdir".toList
  | settings => "config".toList
  | catalog => "messages".toList
  | debug => "debug".toList

/-- The long spelling of a switch. -/
def long (s : Switch) : Text := '-' :: '-' :: s.name

/-- How the switch is named in error texts. -/
def label (s : Switch) : Text :=
  match s.letter? with
  | some c => '-' :: c :: '/' :: s.long
  | none => s.long

/-- A value follows the switch. -/
def takesValue : Switch → Bool
  | help => false
  | debug => false
  | _ => true

/-- The words that the value of a switch is restricted to. -/
def choices? : Switch → Option (List Text)
  | style => some (DotNotation.choices.map DotNotation.spelling)
  | direction => some (RankDirection.all.map RankDirection.spelling)
  | _ => none

/-- The switch of a letter. -/
def ofLetter? (c : Char) : Option Switch := all.find? fun s => s.letter? == some c

/-- The switches whose long spelling begins like this. -/
def withBeginning (t : Text) : List Switch := all.filter fun s => t.isPrefixOf s.long

/-- What the switch is for, in the listing of all switches. -/
def purpose : Switch → Text
  | help => "show this list and stop".toList
  | input => "file of the diagram text, or '-' for standard input (default)".toList
  | output => "file of the drawing, or '-' for standard output (default)".toList
  | style => "notation of the drawing (default: ie)".toList
  | font => "font of every label".toList
  | color => "color pair of entities that have none of their own (default: white)".toList
  | direction => "direction in which the drawing grows (default: LR)".toList
  | settings => "document with settings".toList
  | catalog => "document with the words of error reports".toList
  | debug => "show everything that is recorded".toList

end Switch

/-- A switch in the spelling by which it is named. -/
structure Spelling where
  switch : Switch
  /-- it is named by its letter -/
  byLetter : Bool
  deriving DecidableEq, Repr, Inhabited

/-- The switch that is spelled exactly like this. -/
def Spelling.ofText? (t : Text) : Option Spelling :=
  match t with
  | ['-', c] => (Switch.ofLetter? c).map fun s => ⟨s, true⟩
  | _ => (Switch.all.find? fun s => s.long == t).map fun s => ⟨s, false⟩

/-! ## Faults -/

/-- Why a command line cannot be understood. -/
inductive UsageFault where
  | ambiguous (argument : Text) (fitting : List Switch)
  | valueMissing (s : Switch)
  | valueIgnored (s : Switch) (value : Text)
  | notAChoice (s : Switch) (value : Text)
  | unrecognized (arguments : List Text)
  deriving DecidableEq, Repr, Inhabited

/-- What is said about a switch. -/
def aboutSwitch (s : Switch) (what : Text) : Text := "argument ".toList ++ s.label ++ ':' :: ' ' :: what

/-- The wording of a fault of the command line. -/
def UsageFault.message : UsageFault → Text
  | .ambiguous argument fitting =>
    "ambiguous option: ".toList ++ argument ++ " could match ".toList
      ++ Text.join [',', ' '] (fitting.map Switch.long)
  | .valueMissing s => aboutSwitch s "expected one argument".toList
  | .valueIgnored s value =>
    aboutSwitch s ("ignored explicit argument ".toList ++ Text.quoted value)
  | .notAChoice s value =>
    aboutSwitch s ("invalid choice: ".toList ++ Text.quoted value ++ " (choose from ".toList
      ++ Text.join [',', ' '] ((s.choices?.getD []).map Text.quoted) ++ [')'])
  | .unrecognized arguments => "unrecognized arguments: ".toList ++ Text.join [' '] arguments

/-! ## Kinds of arguments -/

/-- A value that is written in the same argument as its switch. -/
structure Attached where
  value : Text
  /-- an equals sign stands in front of the value -/
  byEquals : Bool
  deriving DecidableEq, Repr, Inhabited

/-- An argument by its kind. -/
inductive Argument where
  /-- the two dashes behind which nothing is a switch -/
  | divider
  /-- no switch -/
  | operand (t : Text)
  /-- what looks like a switch and is none -/
  | unknown (t : Text)
  | switch (s : Spelling) (attached : Option Attached)
  deriving DecidableEq, Repr, Inhabited

namespace Argument

/-- What stands in front of the first equals sign, and what behind it. -/
def splitEquals (t : Text) : Text × Option Text :=
  match t.dropWhile fun c => c != '=' with
  | [] => (t, none)
  | _ :: value => (t.takeWhile fun c => c != '=', some value)

/-- A negative number, which may end in a line feed. -/
def isNegativeNumber : Text → Bool
  | '-' :: t =>
    let body := if Text.endsWith t '\n' then t.dropLast else t
    let digits := body.takeWhile Numeral.isDecimal
    match body.dropWhile Numeral.isDecimal with
    | [] => !digits.isEmpty
    | '.' :: fraction => !fraction.isEmpty && fraction.all Numeral.isDecimal
    | _ => false
  | _ => false

/-- The kind of an argument that opens with a dash and names no switch. -/
def unnamed (t : Text) : Argument :=
  if isNegativeNumber t || t.contains ' ' then operand t else unknown t

/-- The kind of an argument that opens with two dashes and is no exact name. -/
def ofLong (t : Text) : Except UsageFault Argument :=
  let parts := splitEquals t
  match Switch.withBeginning parts.1 with
  | [] => .ok (unnamed t)
  | [s] => .ok (switch ⟨s, false⟩ (parts.2.map fun value => ⟨value, true⟩))
  | fitting => .error (.ambiguous t fitting)

/-- The kind of an argument that opens with one dash and is no exact name. -/
def ofLetters (t : Text) : Argument :=
  match t with
  | '-' :: c :: value =>
    match Switch.ofLetter? c with
    | some s => switch ⟨s, true⟩ (some ⟨value, false⟩)
    | none => unnamed t
  | _ => unnamed t

/-- The kind of an argument in front of the divider. -/
def ofText (t : Text) : Except UsageFault Argument :=
  let parts := splitEquals t
  if t.length < 2 || !t.startsWith '-' then .ok (operand t)
  else
    match Spelling.ofText? t, parts.2, Spelling.ofText? parts.1 with
    | some s, _, _ => .ok (switch s none)
    | none, some value, some s => .ok (switch s (some ⟨value, true⟩))
    | _, _, _ => if ['-', '-'].isPrefixOf t then ofLong t else .ok (ofLetters t)

/-- The kinds of all arguments. -/
def ofTexts : List Text → Except UsageFault (List Argument)
  | [] => .ok []
  | t :: rest =>
    if t == ['-', '-'] then .ok (divider :: rest.map operand)
    else
      match ofText t with
      | .error fault => .error fault
      | .ok a => (ofTexts rest).map fun more => a :: more

end Argument

/-! ## Joined letters -/

/-- What a switch and the letters joined to it come down to. -/
inductive ClusterEnd where
  /-- the last switch has no value with it -/
  | bare (s : Switch)
  | valued (s : Switch) (value : Text)
  /-- the rest behind the last switch, which is none -/
  | leftover (s : Switch) (rest : Text)
  deriving DecidableEq, Repr, Inhabited

/-- The switches in front of the last one, and the last one.  Letters are joined only behind a letter and
without an equals sign between them. -/
def expandCluster (byLetter : Bool) :
    Switch → Bool → Text → Except UsageFault (List Switch × ClusterEnd)
  | s, _, [] => if s.takesValue then .ok ([], .valued s []) else .error (.valueIgnored s [])
  | s, byEquals, c :: rest =>
    if s.takesValue then .ok ([], .valued s (c :: rest))
    else if !byLetter || byEquals || c == '-' then .error (.valueIgnored s (c :: rest))
    else
      match Switch.ofLetter? c with
      | none => .ok ([], .leftover s ('-' :: c :: rest))
      | some next =>
        match rest with
        | [] => .ok ([s], .bare next)
        | d :: value =>
          (if d = '=' then expandCluster byLetter next true value
            else expandCluster byLetter next false (d :: value)).map fun r => (s :: r.1, r.2)

/-! ## Invocations -/

/-- What a command line asks for. -/
structure Invocation where
  input : Text := ['-']
  output : Text := ['-']
  /-- settings that go over those of the document -/
  settings : SettingTexts := {}
  settingsFile : Option Text := none
  catalogFile : Option Text := none
  debug : Bool := false
  deriving DecidableEq, Repr, Inhabited

/-- Why a command line is not carried out. -/
inductive UsageStop where
  /-- the list of switches is asked for -/
  | help
  | fault (f : UsageFault)
  deriving DecidableEq, Repr, Inhabited

namespace Invocation

/-- Takes a switch without a value into account. -/
def withFlag (i : Invocation) (s : Switch) : Except UsageStop Invocation :=
  match s with
  | .help => .error .help
  | .debug => .ok { i with debug := true }
  | _ => .error (.fault (.valueMissing s))

/-- Takes switches without values into account, one after the other. -/
def withFlags : Invocation → List Switch → Except UsageStop Invocation
  | i, [] => .ok i
  | i, s :: rest =>
    match i.withFlag s with
    | .error stop => .error stop
    | .ok j => withFlags j rest

/-- Takes a switch with its value into account; a later value takes the place of an earlier one. -/
def withValue (i : Invocation) (s : Switch) (value : Text) : Except UsageStop Invocation :=
  if (s.choices?.getD [value]).contains value then
    match s with
    | .input => .ok { i with input := value }
    | .output => .ok { i with output := value }
    | .style => .ok { i with settings := { i.settings with style := some value } }
    | .font => .ok { i with settings := { i.settings with font := some value } }
    | .color => .ok { i with settings := { i.settings with color := some value } }
    | .direction => .ok { i with settings := { i.settings with direction := some value } }
    | .settings => .ok { i with settingsFile := some value }
    | .catalog => .ok { i with catalogFile := some value }
    | _ => .error (.fault (.valueIgnored s value))
  else .error (.fault (.notAChoice s value))

/-- What has been understood of a command line, and the arguments that have not. -/
structure Progress where
  invocation : Invocation := {}
  unrecognized : List Text := []
  deriving DecidableEq, Repr, Inhabited

/-- Puts an argument aside. -/
def Progress.setAside (p : Progress) (t : Text) : Progress :=
  { p with unrecognized := p.unrecognized ++ [t] }

/-- Carries out a change of the invocation. -/
def Progress.change (p : Progress) (f : Invocation → Except UsageStop Invocation) :
    Except UsageStop Progress :=
  (f p.invocation).map fun i => { p with invocation := i }

/-- What a switch and what is attached to it come down to. -/
def cluster (s : Spelling) : Option Attached → Except UsageStop (List Switch × ClusterEnd)
  | none => .ok ([], .bare s.switch)
  | some attached =>
    match expandCluster s.byLetter s.switch attached.byEquals attached.value with
    | .ok r => .ok r
    | .error fault => .error (.fault fault)

/-- Goes through arguments. -/
def scan : Progress → List Argument → Except UsageStop Progress
  | p, [] => .ok p
  | p, .divider :: rest => scan (p.setAside ['-', '-']) rest
  | p, .operand t :: rest => scan (p.setAside t) rest
  | p, .unknown t :: rest => scan (p.setAside t) rest
  | p, .switch s attached :: rest =>
    match cluster s attached with
    | .error stop => .error stop
    | .ok (flags, .valued last value) =>
      match p.change fun i => (i.withFlags flags).bind fun j => j.withValue last value with
      | .error stop => .error stop
      | .ok q => scan q rest
    | .ok (flags, .leftover last t) =>
      match (p.setAside t).change fun i => i.withFlags (flags ++ [last]) with
      | .error stop => .error stop
      | .ok q => scan q rest
    | .ok (flags, .bare last) =>
      if last.takesValue then
        match rest with
        | .operand value :: after =>
          match p.change fun i => (i.withFlags flags).bind fun j => j.withValue last value with
          | .error stop => .error stop
          | .ok q => scan q after
        | _ => .error (.fault (.valueMissing last))
      else
        match p.change fun i => i.withFlags (flags ++ [last]) with
        | .error stop => .error stop
        | .ok q => scan q rest

/-- The invocation of a command line. -/
def ofTexts (arguments : List Text) : Except UsageStop Invocation :=
  match Argument.ofTexts arguments with
  | .error fault => .error (.fault fault)
  | .ok kinds =>
    match scan {} kinds with
    | .error stop => .error stop
    | .ok p =>
      if p.unrecognized.isEmpty then .ok p.invocation
      else .error (.fault (.unrecognized p.unrecognized))

end Invocation

end ErDiagram
