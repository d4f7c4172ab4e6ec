import Pinpoint.Text.Basic

/-!
# Reading options from words

A word that starts with a dash and goes on is an option: a long one, which may
carry its value after an equals sign, or a cluster of one-letter flags. A lone
double dash ends the options. All other words are positional, and a grammar says
whether options may still come after the first of them.
-/

namespace Pinpoint.Command

structure Grammar (α : Type) where
  long : List (Text × α)
  /-- Flags of one letter. -/
  short : List (Char × α)
  takesValue : α → Bool
  interspersed : Bool

/-- Words that do not fit a grammar. -/
inductive ParseError
  | unknownOption (name : Text)
  | valueMissing (name : Text)
  | valueUnexpected (name : Text)
deriving DecidableEq, Repr

/-- The options in the order of the words, each with its value, and the positional words. -/
structure Parsed (α : Type) where
  options : List (α × Text) := []
  positional : List Text := []
deriving DecidableEq, Repr

namespace Parsed

variable {α : Type}

def withOptions (p : Parsed α) (options : List (α × Text)) : Parsed α :=
  { p with options := options ++ p.options }

def withPositional (p : Parsed α) (word : Text) : Parsed α :=
  { p with positional := word :: p.positional }

/-- The options that occur, in the order of their first occurrence. -/
def occurring [BEq α] (p : Parsed α) : List α :=
  (p.options.map (·.1)).eraseDups

/-- The value of the last occurrence of an option. -/
def value? [BEq α] (p : Parsed α) (option : α) : Option Text :=
  p.options.reverse.lookup option

end Parsed

def doubleDash : Text := ['-', '-']

def isOption (word : Text) : Bool :=
  word.head? = some '-' && 1 < word.length

/-- A word before and after its first equals sign. -/
def splitAttached (word : Text) : Text × Option Text :=
  match word.dropWhile (· ≠ '=') with
  | [] => (word, none)
  | _ :: value => (word.takeWhile (· ≠ '='), some value)

namespace Grammar

variable {α : Type}

/-- The flags that the letters of a cluster stand for. -/
def cluster (g : Grammar α) (letters : Text) : Except ParseError (List (α × Text)) :=
  letters.mapM fun letter =>
    match g.short.lookup letter with
    | some option => .ok (option, [])
    | none => .error (.unknownOption ['-', letter])

/-- A long option whose value, if it needs one, is attached. -/
def attached? (g : Grammar α) (name : Text) (value : Option Text) (option : α) :
    Except ParseError (Option (α × Text)) :=
  match value with
  | some value => if g.takesValue option then .ok (some (option, value)) else .error (.valueUnexpected name)
  | none => if g.takesValue option then .ok none else .ok (some (option, []))

/-- Errors are those of the first word that does not fit. -/
def parse (g : Grammar α) : List Text → Except ParseError (Parsed α)
  | [] => .ok {}
  | word :: rest =>
    if word = doubleDash then .ok { positional := rest }
    else if isOption word then
      let (name, value) := splitAttached word
      match g.long.lookup name with
      | some option =>
        match g.attached? name value option with
        | .error e => .error e
        | .ok (some found) => (parse g rest).map (·.withOptions [found])
        | .ok none =>
          match rest with
          | [] => .error (.valueMissing name)
          | value :: rest => (parse g rest).map (·.withOptions [(option, value)])
      | none =>
        if doubleDash.isPrefixOf word then .error (.unknownOption name)
        else
          match g.cluster word.tail with
          | .error e => .error e
          | .ok flags => (parse g rest).map (·.withOptions flags)
    else if g.interspersed then (parse g rest).map (·.withPositional word)
    else .ok { positional := word :: rest }

end Grammar

end Pinpoint.Command
