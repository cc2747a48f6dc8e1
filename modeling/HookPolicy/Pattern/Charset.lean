import HookPolicy.Text.Case

/-!
# Sets of characters in a pattern

A test says which characters one place of a pattern takes. A mode says whether case is ignored and
whether classes reach beyond ASCII. Code points are numbers here, because a pattern may name one
that no character has.
-/

namespace HookPolicy.Pattern

open Text

structure Mode where
  ignoreCase : Bool
  wide : Bool
  deriving DecidableEq, Repr

inductive Category
  | digit
  | space
  | word
  deriving DecidableEq, Repr

inductive Item
  | literal (n : Nat)
  | range (lo hi : Nat)
  | category (c : Category) (negated : Bool)
  deriving DecidableEq, Repr

inductive CharTest
  | any (lines : Bool)
  | literal (n : Nat) (negated : Bool)
  | set (items : List Item) (negated : Bool) (folds : Bool)
  deriving DecidableEq, Repr

/-- Letters that match each other beyond what lower case says. -/
def caseKin : List (Nat × List Nat) :=
  [(0x69, [0x131]), (0x73, [0x17F]), (0xB5, [0x3BC]), (0x131, [0x69]), (0x17F, [0x73]),
   (0x345, [0x3B9, 0x1FBE]), (0x390, [0x1FD3]), (0x3B0, [0x1FE3]), (0x3B2, [0x3D0]),
   (0x3B5, [0x3F5]), (0x3B8, [0x3D1]), (0x3B9, [0x345, 0x1FBE]), (0x3BA, [0x3F0]), (0x3BC, [0xB5]),
   (0x3C0, [0x3D6]), (0x3C1, [0x3F1]), (0x3C2, [0x3C3]), (0x3C3, [0x3C2]), (0x3C6, [0x3D5]),
   (0x3D0, [0x3B2]), (0x3D1, [0x3B8]), (0x3D5, [0x3C6]), (0x3D6, [0x3C0]), (0x3F0, [0x3BA]),
   (0x3F1, [0x3C1]), (0x3F5, [0x3B5]), (0x432, [0x1C80]), (0x434, [0x1C81]), (0x43E, [0x1C82]),
   (0x441, [0x1C83]), (0x442, [0x1C84, 0x1C85]), (0x44A, [0x1C86]), (0x463, [0x1C87]),
   (0x1C80, [0x432]), (0x1C81, [0x434]), (0x1C82, [0x43E]), (0x1C83, [0x441]),
   (0x1C84, [0x442, 0x1C85]), (0x1C85, [0x442, 0x1C84]), (0x1C86, [0x44A]), (0x1C87, [0x463]),
   (0x1C88, [0xA64B]), (0x1E61, [0x1E9B]), (0x1E9B, [0x1E61]), (0x1FBE, [0x345, 0x3B9]),
   (0x1FD3, [0x390]), (0x1FE3, [0x3B0]), (0xA64B, [0x1C88]), (0xFB05, [0xFB06]),
   (0xFB06, [0xFB05])]

/-- Applies a map of characters to a code point that is a character. -/
def onChar (f : Char → Char) (n : Nat) : Nat :=
  if n.isValidChar then (f (Char.ofNat n)).toNat else n

def Mode.lower (m : Mode) (n : Nat) : Nat :=
  if m.wide then onChar lowerChar n else onChar asciiLower n

def upperOne (c : Char) : Char :=
  match upperChar c with
  | d :: _ => d
  | [] => c

def Mode.cased (m : Mode) (n : Nat) : Bool :=
  if m.wide then n.isValidChar && hasCase (Char.ofNat n)
  else n.isValidChar && isAsciiLetter (Char.ofNat n)

def Mode.kin (m : Mode) (n : Nat) : List Nat :=
  if m.wide then (caseKin.lookup n).getD [] else []

/-- The code points whose lower case is `n`. -/
def Mode.lowerSources (m : Mode) (n : Nat) : List Nat :=
  let self := if m.lower n == n then [n] else []
  if n < 128 && !(m.wide && (n == 0x69 || n == 0x6B)) then
    if 0x61 ≤ n && n ≤ 0x7A then [n - 32, n] else self
  else if m.wide then
    let ascii := if 0x61 ≤ n && n ≤ 0x7A then [n - 32] else []
    let found := lowerRuns.toList.filterMap fun (lo, hi, step, delta) =>
      let x := ((n : Int) - delta).toNat
      if lo ≤ x && x ≤ hi && (x - lo) % step == 0 then some x else none
    self ++ ascii ++ found
  else self

def categoryHolds (wide : Bool) (c : Category) (n : Nat) : Bool :=
  if !n.isValidChar then false
  else
    let ch := Char.ofNat n
    match c with
    | .digit => if wide then isDigit ch else isAsciiDigit ch
    | .space => if wide then isBlank ch else ch == ' ' || ('\t' ≤ ch && ch ≤ '\r')
    | .word => if wide then isWord ch else isAsciiAlnum ch || ch == '_'

def Item.holds (wide : Bool) (n : Nat) : Item → Bool
  | .literal x => n == x
  | .range lo hi => lo ≤ n && n ≤ hi
  | .category c negated => categoryHolds wide c n != negated

/-- The last code point of the basic plane; case is folded by kin only up to it. -/
def basicEnd : Nat := 0xFFFF

/-- Whether an item takes a character whose lower case is `n`. -/
def Item.holdsFolded (m : Mode) (n : Nat) : Item → Bool
  | .literal x =>
    let low := m.lower x
    if low ≤ basicEnd then n == low || (m.kin low).contains n else n == x
  | .range lo hi =>
    let sources := (n :: m.kin n).flatMap m.lowerSources
    sources.any (fun x => lo ≤ x && x ≤ hi && x ≤ basicEnd) ||
      (hi > basicEnd && ((lo ≤ n && n ≤ hi) ||
        (let up := onChar upperOne n; lo ≤ up && up ≤ hi)))
  | .category c negated => categoryHolds m.wide c n != negated

def anyInRange (p : Nat → Bool) (lo : Nat) : Nat → Bool
  | 0 => false
  | count + 1 => p lo || anyInRange p (lo + 1) count

/-- Whether ignoring case can make a difference to an item. -/
def Item.folds (m : Mode) : Item → Bool
  | .literal x => m.cased x || m.lower x > basicEnd
  | .range lo hi => hi > basicEnd || anyInRange m.cased lo (hi + 1 - lo)
  | .category _ _ => false

def setOf (m : Mode) (items : List Item) (negated : Bool) : CharTest :=
  .set items negated (m.ignoreCase && items.any (Item.folds m))

def literalHolds (m : Mode) (x n : Nat) : Bool :=
  if m.ignoreCase && m.cased x then
    let low := m.lower x
    match m.kin low with
    | [] => n == low || m.lower n == low
    | kin => (low :: kin).contains (m.lower n)
  else n == x

def CharTest.holds (m : Mode) (c : Char) : CharTest → Bool
  | .any lines => lines || c != '\n'
  | .literal x negated => literalHolds m x c.toNat != negated
  | .set items negated folds =>
    (if folds then items.any (Item.holdsFolded m (m.lower c.toNat))
      else items.any (Item.holds m.wide c.toNat)) != negated

end HookPolicy.Pattern
