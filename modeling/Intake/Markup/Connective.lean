import Intake.Text.Basic
import Intake.Text.LetterCase

/-!
# Word connectives

The words `or` and `and` between other words, in any letter case. A connective has a word on both
sides, and the word right after one belongs to what follows. `and` binds tighter than `or`.
-/

namespace Intake

namespace Markup

/-- Whether a word is a connective, in any letter case. -/
def isConnective (connective word : List Char) : Bool :=
  LetterCase.asciiLower word == connective

def orWord : List Char := ['o', 'r']

def andWord : List Char := ['a', 'n', 'd']

/-- Whether a text has a connective between other words. -/
def hasConnective (text : List Char) : Bool :=
  (Text.words text).tail.dropLast.any fun word =>
    isConnective orWord word || isConnective andWord word

/-- Words cut at a connective that has a word on both sides. The first argument holds the reversed
words since the last cut. -/
def cutWords (connective : List Char) (group : List (List Char)) :
    List (List Char) → List (List (List Char))
  | [] => [group.reverse]
  | word :: rest =>
    if isConnective connective word && !group.isEmpty && !rest.isEmpty then
      group.reverse :: cutWords connective [] rest
    else cutWords connective (word :: group) rest

/-- The groups of a text between the connectives `or`, each as its operands between the
connectives `and`. -/
def operands (text : List Char) : List (List (List Char)) :=
  (cutWords orWord [] (Text.words text)).map fun group =>
    (cutWords andWord [] group).map (Text.joined [' '])

end Markup

end Intake
