/-
# Command line arguments

Arguments are read from the left. Switches may be written in these ways, and stand
before and after the other arguments:

| form | meaning |
| --- | --- |
| `--name value`, `--name=value` | a switch with a value |
| `-n value`, `-nvalue`, `-n=value` | the same by its letter |
| `--flag`, `-f`, `-fg` | flags; the last stands for `-f -g` |
| `--` | what follows are no switches |

A value does not begin with a dash unless it is one. A switch is given once, except
for the count of `-v`. The first misuse ends the reading, and so does a call for help
or for the version.
-/

import Pagewright.Command.Basic
import Pagewright.Text.Search

namespace Pagewright
namespace Command

/-- Why the reading of arguments ends without a command. -/
inductive Stop where
  | misuse
  | help
  | version
deriving DecidableEq

/-- What a switch does. -/
inductive Action where
  | setFlag
  | count
  | takeValue (allowed : String → Bool)
  | stop (reason : Stop)

/-- A switch of a command. -/
structure Switch where
  name : String
  letter : Option Char
  action : Action

/-- The arguments of a command. -/
structure Shape where
  switches : List Switch
  /-- Which texts are allowed for each argument that is no switch. -/
  places : List (String → Bool)

/-- The arguments read so far. -/
structure Given where
  flags : List String := []
  values : List (String × String) := []
  places : List String := []

namespace Given

/-- Whether a flag is given. -/
def has (g : Given) (name : String) : Bool := g.flags.contains name

/-- The value of a switch. -/
def value? (g : Given) (name : String) : Option String := g.values.lookup name

/-- Sets a flag, once. -/
def setFlag (g : Given) (name : String) : Except Stop Given :=
  if g.has name then .error .misuse else .ok { g with flags := name :: g.flags }

/-- Sets the value of a switch, once. -/
def setValue (g : Given) (name : String) (allowed : String → Bool) (v : String) :
    Except Stop Given :=
  if (g.value? name).isSome || !allowed v then .error .misuse
  else .ok { g with values := (name, v) :: g.values }

/-- Adds an argument that is no switch. -/
def addPlace (g : Given) (shape : Shape) (v : String) : Except Stop Given :=
  match shape.places[g.places.length]? with
  | some allowed => if allowed v then .ok { g with places := g.places ++ [v] } else .error .misuse
  | none => .error .misuse

end Given

/-- A switch that waits for its value: its name and what is allowed. -/
abbrev Waiting := Option (String × (String → Bool))

/-- Reads a switch by its name, with the value behind `=` if there is one. -/
def readLong (shape : Shape) (g : Given) (text : List Char) : Except Stop (Given × Waiting) :=
  let (name, value) : List Char × Option (List Char) :=
    match Text.splitFirst? '=' text with
    | some (name, value) => (name, some value)
    | none => (text, none)
  match shape.switches.find? fun s => s.name.toList == name with
  | none => .error .misuse
  | some s =>
    match s.action, value with
    | .takeValue allowed, some v =>
      (g.setValue s.name allowed (String.ofList v)).map fun g => (g, none)
    | .takeValue allowed, none => .ok (g, some (s.name, allowed))
    | .setFlag, none => (g.setFlag s.name).map fun g => (g, none)
    | .count, none => .ok (g, none)
    | .stop reason, none => .error reason
    | _, some _ => .error .misuse

/-- Reads switches by their letters, with the value behind the last. -/
def readLetters (shape : Shape) (g : Given) : List Char → Except Stop (Given × Waiting)
  | [] => .ok (g, none)
  | c :: rest =>
    match shape.switches.find? fun s => s.letter == some c with
    | none => .error .misuse
    | some s =>
      match s.action with
      | .takeValue allowed =>
        match rest with
        | [] => .ok (g, some (s.name, allowed))
        | '=' :: v | v =>
          (g.setValue s.name allowed (String.ofList v)).map fun g => (g, none)
      | .setFlag =>
        match g.setFlag s.name with
        | .ok g => readLetters shape g rest
        | .error e => .error e
      | .count => readLetters shape g rest
      | .stop reason => .error reason

/-- Reads the arguments of a command. -/
def readArguments (shape : Shape) (g : Given) (waiting : Waiting) (plain : Bool) :
    List String → Except Stop Given
  | [] => if waiting.isSome then .error .misuse else .ok g
  | arg :: rest =>
    let dashed : Option (Except Stop (Given × Waiting)) :=
      if plain then none
      else
        match arg.toList with
        | '-' :: '-' :: text => some (readLong shape g text)
        | '-' :: c :: text => some (readLetters shape g (c :: text))
        | _ => none
    match waiting with
    | some (name, allowed) =>
      if dashed.isSome then .error .misuse
      else
        match g.setValue name allowed arg with
        | .ok g => readArguments shape g none plain rest
        | .error e => .error e
    | none =>
      if arg = "--" && !plain then readArguments shape g none true rest
      else
        match dashed with
        | some (.ok (g, waiting)) => readArguments shape g waiting plain rest
        | some (.error e) => .error e
        | none =>
          match g.addPlace shape arg with
          | .ok g => readArguments shape g none plain rest
          | .error e => .error e

/-- The switch that counts how much is to be logged. -/
def verboseSwitch : Switch := ⟨"verbose", some 'v', .count⟩

/-- The switch that calls for help. -/
def helpSwitch : Switch := ⟨"help", some 'h', .stop .help⟩

/-- The switch that calls for the version. -/
def versionSwitch : Switch := ⟨"version", some 'V', .stop .version⟩

/-- A switch that names a platform. -/
def platformSwitch : Switch :=
  ⟨"platform", some 'p', .takeValue fun s => (Platform.ofName s).toOption.isSome⟩

/-- A switch that gives a path. -/
def pathSwitch (name : String) (letter : Option Char) : Switch :=
  ⟨name, letter, .takeValue fun s => !s.isEmpty⟩

/-- A flag. -/
def flagSwitch (name : String) : Switch := ⟨name, none, .setFlag⟩

/-- The switch that gives the manifest. -/
def configSwitch : Switch := pathSwitch "config" (some 'c')

/-- The platform that arguments name. -/
def Given.platform? (g : Given) : Option Platform :=
  (g.value? "platform").bind fun s => (Platform.ofName s).toOption

/-- The manifest that arguments give, or else the usual one. -/
def Given.config (g : Given) : String := (g.value? "config").getD defaultManifest

/-- A command by name: its arguments, and what they make up. -/
structure Entry where
  name : String
  switches : List Switch
  places : List (String → Bool)
  make : Given → Option Command

/-- The commands by name. -/
def entries : List Entry := [
  ⟨"init", [pathSwitch "output" (some 'o'), platformSwitch], [fun _ => true], fun g =>
    some (.init (g.places.headD ".") (g.value? "output") g.platform?)⟩,
  ⟨"generate",
    [configSwitch, platformSwitch, pathSwitch "output" (some 'o'), flagSwitch "dry-run"], [],
    fun g => some (.generate g.config g.platform? (g.value? "output") (g.has "dry-run"))⟩,
  ⟨"check", [configSwitch, platformSwitch], [], fun g => some (.check g.config g.platform?)⟩,
  ⟨"preview", [configSwitch, platformSwitch, flagSwitch "ast"], [fun s => !s.isEmpty], fun g =>
    g.places.head?.map fun page =>
      .preview page (g.value? "config") g.platform? (g.has "ast")⟩,
  ⟨"pack", [configSwitch, platformSwitch, pathSwitch "out" none], [], fun g =>
    some (.pack g.config g.platform? ((g.value? "out").getD "."))⟩,
  ⟨"components", [configSwitch, platformSwitch], [], fun g =>
    some (.components (g.value? "config") g.platform?)⟩]

/-- Reads the arguments of a named command. -/
def Entry.read (e : Entry) (args : List String) : Except Stop Command := do
  let shape : Shape := ⟨verboseSwitch :: helpSwitch :: e.switches, e.places⟩
  let g ← readArguments shape {} none false args
  match e.make g with
  | some c => pure c
  | none => .error .misuse

/-- The switches in front of the name of a command. -/
def frontShape : Shape := ⟨[verboseSwitch, helpSwitch, versionSwitch], []⟩

/-- Reads the arguments of the program. -/
def parse : List String → Except Stop Command
  | [] => .error .misuse
  | arg :: rest =>
    match arg.toList with
    | '-' :: _ :: _ =>
      match readArguments frontShape {} none false [arg] with
      | .ok _ => if arg = "--" then .error .misuse else parse rest
      | .error e => .error e
    | _ =>
      match entries.find? fun e => e.name = arg with
      | some e => e.read rest
      | none =>
        if arg = "help" && rest.length ≤ 1 && rest.all (fun a => entries.any (·.name = a)) then
          .error .help
        else .error .misuse

end Command
end Pagewright
