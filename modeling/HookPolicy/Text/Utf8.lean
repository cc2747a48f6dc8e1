/-!
# Texts from bytes

`decode` reads well-formed UTF-8 and names the first fault otherwise; `decodeLossy` puts a
replacement character for each faulty stretch.
-/

namespace HookPolicy.Utf8

inductive Fault
  | badStart
  | badContinuation
  | truncated
  deriving DecidableEq, Repr

def Fault.message : Fault → String
  | .badStart => "invalid start byte"
  | .badContinuation => "invalid continuation byte"
  | .truncated => "unexpected end of data"

/-- A faulty stretch of bytes: its first byte, how long it is, and what is wrong with it. -/
structure Issue where
  offset : Nat
  length : Nat
  byte : UInt8
  fault : Fault
  deriving DecidableEq, Repr

inductive Step
  | char (c : Char) (size : Nat)
  | bad (size : Nat) (fault : Fault)

def isContinuation (b : UInt8) : Bool := 0x80 ≤ b && b ≤ 0xBF

def payload (b : UInt8) : Nat := b.toNat % 0x40

/-- The second byte that a three- or four-byte form may have, given its first. -/
def secondFits (a b : UInt8) : Bool :=
  isContinuation b &&
    !(a == 0xE0 && b < 0xA0) && !(a == 0xED && b ≥ 0xA0) &&
    !(a == 0xF0 && b < 0x90) && !(a == 0xF4 && b ≥ 0x90)

/-- Reads the character that starts with byte `a`. -/
def step (a : UInt8) (rest : List UInt8) : Step :=
  if a < 0x80 then .char (Char.ofNat a.toNat) 1
  else if a < 0xC2 then .bad 1 .badStart
  else if a < 0xE0 then
    match rest with
    | [] => .bad 1 .truncated
    | b :: _ =>
      if isContinuation b then .char (Char.ofNat ((a.toNat % 0x20) * 64 + payload b)) 2
      else .bad 1 .badContinuation
  else if a < 0xF0 then
    match rest with
    | [] => .bad 1 .truncated
    | b :: more =>
      if !secondFits a b then .bad 1 .badContinuation
      else match more with
        | [] => .bad 2 .truncated
        | c :: _ =>
          if isContinuation c then
            .char (Char.ofNat ((a.toNat % 0x10) * 4096 + payload b * 64 + payload c)) 3
          else .bad 2 .badContinuation
  else if a < 0xF5 then
    match rest with
    | [] => .bad 1 .truncated
    | b :: more =>
      if !secondFits a b then .bad 1 .badContinuation
      else match more with
        | [] => .bad 2 .truncated
        | c :: more =>
          if !isContinuation c then .bad 2 .badContinuation
          else match more with
            | [] => .bad 3 .truncated
            | d :: _ =>
              if isContinuation d then
                .char (Char.ofNat ((a.toNat % 8) * 262144 + payload b * 4096 + payload c * 64 +
                  payload d)) 4
              else .bad 3 .badContinuation
  else .bad 1 .badStart

def decodeFrom (offset skip : Nat) (out : List Char) : List UInt8 → Except Issue (List Char)
  | [] => .ok out.reverse
  | a :: rest =>
    match skip with
    | skip + 1 => decodeFrom (offset + 1) skip out rest
    | 0 =>
      match step a rest with
      | .char c size => decodeFrom (offset + 1) (size - 1) (c :: out) rest
      | .bad size fault => .error ⟨offset, size, a, fault⟩

def decode (bytes : List UInt8) : Except Issue (List Char) := decodeFrom 0 0 [] bytes

def decodeLossyFrom (skip : Nat) (out : List Char) : List UInt8 → List Char
  | [] => out.reverse
  | a :: rest =>
    match skip with
    | skip + 1 => decodeLossyFrom skip out rest
    | 0 =>
      match step a rest with
      | .char c size => decodeLossyFrom (size - 1) (c :: out) rest
      | .bad size _ => decodeLossyFrom (size - 1) ('\uFFFD' :: out) rest

def decodeLossy (bytes : List UInt8) : List Char := decodeLossyFrom 0 [] bytes

def encode (s : String) : List UInt8 := s.toUTF8.toList

def lowHex (n : Nat) : Char := (Nat.digitChar n)

def Issue.message (i : Issue) : String :=
  let place :=
    if i.length == 1 then
      let hex := String.ofList [lowHex (i.byte.toNat / 16), lowHex (i.byte.toNat % 16)]
      s!"byte 0x{hex} in position {i.offset}"
    else s!"bytes in position {i.offset}-{i.offset + i.length - 1}"
  s!"'utf-8' codec can't decode {place}: {i.fault.message}"

end HookPolicy.Utf8
