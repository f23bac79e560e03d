namespace Orchestration.Arguments

-- Options may be cut short as long as they stay distinct, and what stands behind `--` is no option. What is wrong
-- with the value of an option is answered where it stands, stray arguments only when all have been looked at.
inductive Word where
  | help
  | json
  | chain
  | positional
  | unknown
  -- An option with a value, which none of them takes.
  | valued
  -- A start of several options.
  | ambiguous
  deriving DecidableEq, Repr

def options : List (String × Word) := [("--help", .help), ("--json", .json), ("--chain", .chain)]

-- An argument that looks like a negative number is no option.
def isNegativeNumber (digits : List Char) : Bool :=
  let fraction := (digits.dropWhile Char.isDigit).drop 1
  (!digits.isEmpty && digits.all Char.isDigit) ||
    (digits.dropWhile Char.isDigit).head? == some '.' && !fraction.isEmpty && fraction.all Char.isDigit

def longWord (s : String) : Word :=
  let name := s.toList.takeWhile (· != '=')
  match options.filter (fun (o, _) => name.isPrefixOf o.toList) with
  | [(_, word)] => if s.toList.contains '=' then .valued else word
  | [] => if s.toList.contains ' ' then .positional else .unknown
  | _ => .ambiguous

-- What follows a call for help behind the same dash: the call may be repeated, also behind an
-- equals sign. Anything else is a value.
def afterHelp (letters : List Char) : Word :=
  match letters with
  | '=' :: more => if !more.isEmpty && more.all (· == 'h') then .help else .valued
  | _ => if letters.all (· == 'h') then .help else .valued

-- Behind one dash only calls for help are known.
def shortWord (s : String) (letters : List Char) : Word :=
  match letters with
  | 'h' :: rest => afterHelp rest
  | _ => if isNegativeNumber letters || s.toList.contains ' ' then .positional else .unknown

def word (s : String) : Word :=
  match s.toList with
  | [] => .positional
  | ['-'] => .positional
  | '-' :: '-' :: _ => longWord s
  | '-' :: letters => shortWord s letters
  | _ => .positional

structure Request where
  file : String
  json : Bool
  chain : Bool
  deriving DecidableEq, Repr

inductive Stop where
  | help
  | refused
  deriving DecidableEq, Repr

structure Found where
  file : Option String
  json : Bool
  chain : Bool
  stray : Bool

def Found.none : Found := ⟨Option.none, false, false, false⟩

-- A positional argument is the file, or a stray one if there is a file already.
def Found.add (f : Found) (s : String) : Found :=
  match f.file with
  | Option.none => { f with file := some s }
  | some _ => { f with stray := true }

def scan (f : Found) : List String → Except Stop Found
  | [] => .ok f
  | s :: rest =>
      match word s with
      | .help => .error .help
      | .valued => .error .refused
      | .ambiguous => .error .refused
      | .json => scan { f with json := true } rest
      | .chain => scan { f with chain := true } rest
      | .positional => scan (f.add s) rest
      | .unknown => scan { f with stray := true } rest

-- The mark `--` belongs to the file: it stands directly behind it or somewhere before it.
def markIsPlaced (f : Found) (before after : List String) : Bool :=
  match f.file with
  | Option.none => true
  | some file => after.isEmpty && before.getLast? == some file

def parse (args : List String) : Except Stop Request :=
  let before := args.takeWhile (· != "--")
  let rest := args.dropWhile (· != "--")
  if before.any (word · == .ambiguous) then .error .refused
  else match scan .none before with
    | .error stop => .error stop
    | .ok f =>
        let all := match rest with
          | [] => f
          | _ :: after =>
              let f := if markIsPlaced f before after then f else { f with stray := true }
              after.foldl Found.add f
        match all.file with
        | some file => if all.stray then .error .refused else .ok ⟨file, all.json, all.chain⟩
        | Option.none => .error .refused

example : (parse ["flow.json", "--js"]).toOption = some ⟨"flow.json", true, false⟩ := by
  decide +kernel
example : (parse ["flow.json", "more"]).toOption = none := by decide +kernel
example : word "-hh" = .help ∧ word "-h=h" = .help ∧ word "-hx" = .valued := by decide +kernel

end Orchestration.Arguments
