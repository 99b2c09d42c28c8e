import TaleLoom.Text.Digits
/-!
Reading a command line. A grammar has switches, some of which take a value, and at most one thing
that is written without a switch. Long switches can be shortened as far as they stay clear, a value
can follow its switch after an equals sign, switches of one letter can be written together, and
after two dashes nothing is a switch any more.
-/

namespace TaleLoom

/-- Why a command line is not carried out: help is wanted, or it cannot be understood. -/
inductive Refusal where
  | help
  | usage
  deriving DecidableEq, Repr

/-- What a switch does to the settings. -/
inductive SwitchEffect (σ : Type) where
  | help
  | flag (set : σ → σ)
  /-- Takes a value, which the switch may refuse. -/
  | value (set : String → σ → Option σ)

/-- A switch under its names. -/
structure Switch (σ : Type) where
  names : List String
  effect : SwitchEffect σ

/-- What an argument of a command line is. -/
inductive Mark (σ : Type) where
  | argument
  | dashes
  | unknown
  /-- A switch, by the name that starts with two dashes or with one, with the rest of the argument:
  after an equals sign, or as further letters. -/
  | switch (effect : SwitchEffect σ) (long : Bool) (assigned : Option String)
      (letters : List Char)

/-- An argument with what it is. -/
structure Marked (σ : Type) where
  text : String
  mark : Mark σ

/-- The state of reading: the settings so far and whether something was left over. -/
structure Progress (σ : Type) where
  settings : σ
  leftOver : Bool := false

/-- What is written without a switch. `take` gives what it makes of the arguments from one on, and
the arguments after it; nothing where it cannot start there. -/
structure Positional (σ : Type) where
  required : Bool
  take : Progress σ → List (Marked σ) → Option (Except Refusal (Progress σ × List (Marked σ)))

/-- The switches of a command line and what is written without one. -/
structure Grammar (σ : Type) where
  switches : List (Switch σ)
  positional : Positional σ

namespace Grammar

variable {σ : Type}

/-- Every name of every switch, with its effect. -/
def names (g : Grammar σ) : List (String × SwitchEffect σ) :=
  g.switches.flatMap fun s => s.names.map fun name => (name, s.effect)

def startsWith (start s : String) : Bool := start.toList.isPrefixOf s.toList

/-- A number with a minus sign. -/
def isNegativeNumber (s : String) : Bool :=
  let body := match s.toList.getLast? with
    | some '\n' => s.toList.dropLast
    | _ => s.toList
  match body with
  | '-' :: digits =>
    let whole := digits.takeWhile Text.isDecimal
    match digits.dropWhile Text.isDecimal with
    | [] => !whole.isEmpty
    | '.' :: places => !places.isEmpty && places.all Text.isDecimal
    | _ => false
  | _ => false

/-- The name before an equals sign, and what follows it. -/
def assignment (s : String) : String × Option String :=
  let cs := s.toList
  let name := String.ofList (cs.takeWhile (· != '='))
  match cs.dropWhile (· != '=') with
  | _ :: rest => (name, some (String.ofList rest))
  | [] => (name, none)

/-- The switches that an argument can be short for. -/
def candidates (g : Grammar σ) (s : String) : List (Mark σ) :=
  match s.toList with
  | '-' :: '-' :: _ =>
    let (start, assigned) := assignment s
    (g.names.filter fun (name, _) => startsWith start name).map fun (_, effect) =>
      .switch effect true assigned []
  | '-' :: c :: rest =>
    g.names.filterMap fun (name, effect) =>
      if name = String.ofList ['-', c] then some (.switch effect false none rest)
      else if startsWith s name then some (.switch effect false none []) else none
  | _ => []

def markOf (g : Grammar σ) (s : String) : Except Refusal (Mark σ) :=
  if !startsWith "-" s || s = "-" then .ok .argument
  else
    let isLong := startsWith "--" s
    match g.names.lookup s with
    | some effect => .ok (.switch effect isLong none [])
    | none =>
      match (assignment s).2, g.names.lookup (assignment s).1 with
      | some v, some effect => .ok (.switch effect isLong (some v) [])
      | _, _ =>
        match g.candidates s with
        | [mark] => .ok mark
        | [] =>
          if isNegativeNumber s || s.toList.contains ' ' then .ok .argument else .ok .unknown
        | _ => .error .usage

/-- What each argument is; after two dashes everything is an argument. -/
def marks (g : Grammar σ) : List String → Except Refusal (List (Marked σ))
  | [] => .ok []
  | s :: rest =>
    if s = "--" then .ok (⟨s, .dashes⟩ :: rest.map fun s => ⟨s, .argument⟩)
    else do
      let mark ← g.markOf s
      return ⟨s, mark⟩ :: (← marks g rest)

/-- The effects of switches of one letter that are written together, and whether letters are left
over that are none. -/
def together (g : Grammar σ) : List (SwitchEffect σ) → List Char →
    Except Refusal (List (SwitchEffect σ) × Bool)
  | done, [] => .ok (done, false)
  | done, c :: rest =>
    if c = '-' || c = '=' then .error .usage
    else match g.names.lookup (String.ofList ['-', c]) with
      | some effect => together g (done ++ [effect]) rest
      | none => .ok (done, true)

def applyAll (settings : σ) : List (SwitchEffect σ) → Except Refusal σ
  | [] => .ok settings
  | .flag set :: rest => applyAll (set settings) rest
  | .help :: _ => .error .help
  | .value _ :: _ => .error .usage

/-- Applies a switch, which may take the next argument, and gives the arguments after it. -/
def applySwitch (g : Grammar σ) (progress : Progress σ) (effect : SwitchEffect σ) (long : Bool)
    (assigned : Option String) (letters : List Char) (rest : List (Marked σ)) :
    Except Refusal (Progress σ × List (Marked σ)) :=
  match effect, assigned with
  | .value set, some v =>
    match set v progress.settings with
    | some settings => .ok ({ progress with settings }, rest)
    | none => .error .usage
  | .value set, none =>
    match rest with
    | ⟨v, .argument⟩ :: rest =>
      match set v progress.settings with
      | some settings => .ok ({ progress with settings }, rest)
      | none => .error .usage
    | _ => .error .usage
  | _, some _ => .error .usage
  | effect, none =>
    if long then (applyAll progress.settings [effect]).map fun settings =>
      ({ progress with settings }, rest)
    else do
      let (effects, more) ← g.together [effect] letters
      let settings ← applyAll progress.settings effects
      return ({ settings, leftOver := progress.leftOver || more }, rest)

/-- An argument that is, or may be, a switch. -/
def isSwitch (m : Marked σ) : Bool :=
  match m.mark with
  | .argument => false
  | .dashes => false
  | _ => true

/-- Reads arguments one after another; `pending` is what may still be written without a switch, and
the allowance is their number. Gives the state at the end and what is still open. -/
def walk (g : Grammar σ) : Nat → Option (Positional σ) → Progress σ → List (Marked σ) →
    Except Refusal (Progress σ × Option (Positional σ))
  | 0, pending, progress, _ => .ok (progress, pending)
  | allowance + 1, pending, progress, args =>
    match args with
    | [] =>
      match pending.bind fun p => p.take progress [] with
      | some (.ok (progress, _)) => .ok (progress, none)
      | some (.error refusal) => .error refusal
      | none => .ok (progress, pending)
    | m :: rest =>
      match m.mark with
      | .unknown => walk g allowance pending { progress with leftOver := true } rest
      | .switch effect long assigned letters =>
        match g.applySwitch progress effect long assigned letters rest with
        | .ok (progress, rest) => walk g allowance pending progress rest
        | .error refusal => .error refusal
      | _ =>
        match pending.bind fun p => p.take progress args with
        | some (.ok (progress, rest)) => walk g allowance none progress rest
        | some (.error refusal) => .error refusal
        | none =>
          let rest := args.dropWhile (!isSwitch ·)
          walk g allowance pending { progress with leftOver := true } rest

/-- Reads a whole command line, leaving over what is not understood. -/
def read (g : Grammar σ) (progress : Progress σ) (args : List String) :
    Except Refusal (Progress σ) := do
  let marked ← g.marks args
  let (progress, pending) ← g.walk (marked.length + 2) (some g.positional) progress marked
  match pending with
  | some p => if p.required then throw .usage else return progress
  | none => return progress

end Grammar

namespace Positional

variable {σ : Type}

def isDashes (m : Marked σ) : Bool :=
  match m.mark with
  | .dashes => true
  | _ => false

/-- The texts of arguments, without the two dashes where they come first. -/
def textsOf (args : List (Marked σ)) : List String := (args.map (·.text)).erase "--"

/-- Nothing is written without a switch. -/
def nothing : Positional σ := { required := false, take := fun _ _ => none }

/-- One argument, with two dashes before or after it or not. -/
def one (set : String → σ → σ) : Positional σ where
  required := true
  take progress args :=
    let lead := args.takeWhile isDashes
    match args.dropWhile isDashes with
    | ⟨s, .argument⟩ :: rest =>
      let trail := rest.takeWhile isDashes
      let texts := textsOf (lead ++ ⟨s, .argument⟩ :: trail)
      some (.ok ({ progress with settings := set (texts.headD s) progress.settings },
        rest.dropWhile isDashes))
    | _ => none

def optional (set : String → σ → σ) : Positional σ where
  required := false
  take progress args :=
    match (one set).take progress args with
    | some result => some result
    | none => some (.ok (progress, args.dropWhile isDashes))

/-- A command and all that follows it, which a grammar of its own reads. -/
def command (grammars : List (String × (σ → σ) × Grammar σ)) : Positional σ where
  required := true
  take progress args :=
    match args.dropWhile isDashes with
    | ⟨s, .argument⟩ :: rest =>
      if (args.takeWhile isDashes).isEmpty then
        match grammars.lookup s with
        | some (set, g) =>
          some ((g.read { progress with settings := set progress.settings }
            (rest.map (·.text))).map fun progress => (progress, []))
        | none => some (.error .usage)
      else some (.error .usage)
    | _ => none

end Positional

end TaleLoom
