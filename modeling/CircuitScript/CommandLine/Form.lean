/-!
Forms of commands: which options and which other words a command takes, and how a list of words is
sorted by them. An option has a long name and perhaps a letter; letters can be joined behind one
dash, and a value can follow its option in the same word or in the next.
-/
namespace CircuitScript

structure OptionForm where
  name : String
  letter : Option Char
  hasValue : Bool
  takesNegative : Bool
  isRepeatable : Bool
  accepts : String → Bool

def OptionForm.value (name : String) (letter : Option Char) (accepts : String → Bool) :
    OptionForm :=
  ⟨name, letter, true, false, false, accepts⟩

def OptionForm.text (name : String) (letter : Option Char) : OptionForm :=
  .value name letter fun _ => true

def OptionForm.number (name : String) (accepts : String → Bool) : OptionForm :=
  ⟨name, none, true, true, false, accepts⟩

def OptionForm.flag (name : String) : OptionForm :=
  ⟨name, none, false, false, false, fun _ => true⟩

structure PlaceForm where
  name : String
  /-- Whether the place takes all words from here on. -/
  isList : Bool
  takesNegative : Bool
  /-- Whether words that look like options belong here, once they are none of the command's. -/
  takesDashes : Bool
  accepts : String → Bool

structure CommandForm where
  name : String
  options : List OptionForm
  places : List PlaceForm

inductive FormStop where
  | misuse
  | helpWanted
  | versionWanted
  deriving DecidableEq, Repr

namespace CommandForm

def sharedOptions : List OptionForm :=
  let flag := fun name letter => ⟨name, some letter, false, false, true, fun _ => true⟩
  [flag "verbose" 'v', flag "help" 'h']

def allOptions (form : CommandForm) : List OptionForm := form.options ++ sharedOptions

def named? (form : CommandForm) (name : String) : Option OptionForm :=
  form.allOptions.find? (·.name = name)

def lettered? (form : CommandForm) (letter : Char) : Option OptionForm :=
  form.allOptions.find? (·.letter = some letter)

structure Progress where
  /-- The option whose value the next word is. -/
  pending : Option OptionForm
  place : Nat
  inList : Bool
  onlyWords : Bool
  found : List (String × String)

def Progress.start : Progress := ⟨none, 0, false, false, []⟩

/-- Digits with at most one point and at most one power of ten mark, neither at the start and the
mark not at the end. -/
def isNumber (text : List Char) : Bool :=
  let (before, power) := text.span fun c => c ≠ 'e' && c ≠ 'E'
  let (whole, fraction) := before.span (· ≠ '.')
  let powerDigits := power.drop 1
  whole.all Char.isDigit && (fraction.drop 1).all Char.isDigit && powerDigits.all Char.isDigit
    && !((!fraction.isEmpty || !power.isEmpty) && whole.isEmpty)
    && !(!power.isEmpty && powerDigits.isEmpty)

variable (form : CommandForm)

def current? (p : Progress) : Option PlaceForm := form.places[p.place]?

def openList? (p : Progress) : Option PlaceForm := if p.inList then form.current? p else none

/-- An option with its value. A value that cannot be one is a misuse, and so is an option that is
given again but must not be. -/
def addOption (p : Progress) (option : OptionForm) (value : String) : Except FormStop Progress :=
  if !option.accepts value || (!option.isRepeatable && p.found.any (·.1 = option.name)) then
    .error .misuse
  else
    .ok { p with pending := none, inList := false, found := p.found ++ [(option.name, value)] }

def takeWord (p : Progress) (word : String) : Except FormStop Progress :=
  match p.pending with
  | some option => addOption p option word
  | none =>
    match form.current? p with
    | none => .error .misuse
    | some place =>
      if place.accepts word then
        .ok { p with
          place := if place.isList then p.place else p.place + 1
          inList := place.isList
          found := p.found ++ [(place.name, word)] }
      else .error .misuse

/-- An option, with the value that stands in the same word. An option before it that still lacks
its value is a misuse. -/
def takeOption (p : Progress) (option : OptionForm) (attached : Option String) :
    Except FormStop Progress :=
  if p.pending.isSome then .error .misuse
  else
    match option.hasValue, attached with
    | true, some value => addOption p option value
    | true, none => .ok { p with pending := some option, inList := false }
    | false, some _ => .error .misuse
    | false, none =>
      if option.name = "help" then .error .helpWanted else addOption p option ""

def takeLong (p : Progress) (word : String) (text : List Char) : Except FormStop Progress :=
  if ((form.openList? p).map PlaceForm.takesDashes).getD false then form.takeWord p word
  else
    let (name, value) := text.span (· ≠ '=')
    let attached := if value.isEmpty then none else some (String.ofList (value.drop 1))
    match form.named? (String.ofList name) with
    | some option => takeOption p option attached
    | none =>
      if ((form.current? p).map PlaceForm.takesDashes).getD false then form.takeWord p word
      else .error .misuse

/-- Letters behind one dash. A letter whose option takes a value takes the rest of the word. -/
def takeLetters (p : Progress) : List Char → Except FormStop Progress
  | [] => .ok p
  | letter :: rest =>
    match form.lettered? letter with
    | none => .error .misuse
    | some option =>
      if option.hasValue then
        let attached := match rest with
          | [] => none
          | '=' :: value => some (String.ofList value)
          | value => some (String.ofList value)
        takeOption p option attached
      else
        match takeOption p option none with
        | .ok p => takeLetters p rest
        | .error stop => .error stop

def isDashedWord (p : Progress) (letters : List Char) : Bool :=
  let list := form.openList? p
  let place := form.current? p
  let negative := (p.pending.map OptionForm.takesNegative).getD false
    || (list.map PlaceForm.takesNegative).getD false
    || (place.map PlaceForm.takesNegative).getD false
  (list.map PlaceForm.takesDashes).getD false
    || (negative && isNumber letters)
    || ((place.map PlaceForm.takesDashes).getD false
      && letters.any fun letter => (form.lettered? letter).isNone)

/-- The next word. After a word of two dashes alone no word is an option. -/
def takeNext (p : Progress) (word : String) : Except FormStop Progress :=
  if p.onlyWords then form.takeWord p word
  else match word.toList with
    | ['-', '-'] =>
      if ((form.openList? p).map PlaceForm.takesDashes).getD false then form.takeWord p word
      else if p.pending.isSome then .error .misuse
      else .ok { p with onlyWords := true }
    | '-' :: '-' :: text => form.takeLong p word text
    | '-' :: letter :: rest =>
      if form.isDashedWord p (letter :: rest) then form.takeWord p word
      else form.takeLetters p (letter :: rest)
    | _ => form.takeWord p word

def sort (words : List String) : Except FormStop (List (String × String)) := do
  let p ← words.foldlM form.takeNext Progress.start
  if p.pending.isSome then throw .misuse
  return p.found

end CommandForm

end CircuitScript
