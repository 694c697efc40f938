import IdResolution.Text.Composition
import IdResolution.Text.Mark

/-!
# Canonical composition

Texts that differ only in how letters and marks are composed are canonically the
same.  Their common form is found in three steps: every character is split as far as
it goes, the marks after a letter are sorted by their classes, and letters and marks
are composed again.
-/

namespace IdResolution.Text

/-- Split a character as far as it goes.  No character takes more than four
splits one after the other. -/
def splitPoint : Nat → Nat → List Nat
  | 0, point => [point]
  | fuel + 1, point =>
      match splitPair? point with
      | some (first, second) => splitPoint fuel first ++ [second]
      | none => [point]

/-- Put a character after a row that stands with the last first.  A mark moves up
before marks of greater classes. -/
def placeMark (point : Nat) : List Nat → List Nat
  | [] => [point]
  | last :: earlier =>
      if combiningClass point ≠ 0 ∧ combiningClass point < combiningClass last then
        last :: placeMark point earlier
      else
        point :: last :: earlier

/-- Sort the marks after each letter by their classes. -/
def sortMarks (points : List Nat) : List Nat :=
  (points.foldl (fun sorted point => placeMark point sorted) []).reverse

/-- A text in the course of being composed: what is finished, the letter that marks
may still join, and the marks after it that did not.  Both rows stand with the last
first. -/
structure Composer where
  finished : List Nat := []
  letter : Option Nat := none
  marks : List Nat := []

namespace Composer

/-- All that has been taken in, with the last first. -/
def all (composer : Composer) : List Nat :=
  composer.marks ++ composer.letter.toList ++ composer.finished

/-- Whether a character may join the letter: no mark in between has its class or a
greater one, and nothing stands between it and a letter that follows. -/
def isReached (composer : Composer) (point : Nat) : Bool :=
  match composer.marks with
  | [] => true
  | last :: _ => combiningClass last < combiningClass point

/-- Take in a character. -/
def step (composer : Composer) (point : Nat) : Composer :=
  let joined :=
    if composer.isReached point then
      composer.letter.bind fun letter => composePair? letter point
    else
      none
  match joined with
  | some whole => { composer with letter := some whole }
  | none =>
      if combiningClass point = 0 then
        { finished := composer.all, letter := some point }
      else
        { composer with marks := point :: composer.marks }

end Composer

/-- Compose letters and marks. -/
def compose (points : List Nat) : List Nat :=
  (points.foldl Composer.step {}).all.reverse

/-- The composed form of a text. -/
def canonical (points : List Nat) : List Nat :=
  compose (sortMarks (points.flatMap (splitPoint 4)))

end IdResolution.Text
