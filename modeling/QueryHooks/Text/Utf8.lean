/-!
UTF-8, decoded byte by byte. A refusal names the longest run of bytes that starts a character and
does not complete one.
-/

namespace QueryHooks.Text.Utf8

inductive Refusal
  | badStart
  | badContinuation
  | truncated
deriving DecidableEq, Repr

def Refusal.message : Refusal → String
  | .badStart => "invalid start byte"
  | .badContinuation => "invalid continuation byte"
  | .truncated => "unexpected end of data"

def isContinuation (byte : UInt8) : Bool := 0x80 ≤ byte && byte ≤ 0xBF

/-- Which second bytes a lead byte admits: no overlong form, no surrogate, nothing above U+10FFFF. -/
def admitsSecond (lead second : UInt8) : Bool :=
  isContinuation second &&
    (lead != 0xE0 || 0xA0 ≤ second) && (lead != 0xED || second < 0xA0) &&
    (lead != 0xF0 || 0x90 ≤ second) && (lead != 0xF4 || second < 0x90)

def join (lead : Nat) (tails : List UInt8) : Char :=
  Char.ofNat (tails.foldl (fun value byte => value * 64 + (byte.toNat - 0x80)) lead)

/-- The first character and the bytes after it, or why there is none and how many bytes are to blame. -/
def decodeOne (lead : UInt8) (rest : List UInt8) : Except (Refusal × Nat) (Char × List UInt8) :=
  if lead < 0x80 then .ok (Char.ofNat lead.toNat, rest)
  else if lead < 0xC2 || 0xF4 < lead then .error (.badStart, 1)
  else match rest with
    | [] => .error (.truncated, 1)
    | second :: rest =>
        if !admitsSecond lead second then .error (.badContinuation, 1)
        else if lead < 0xE0 then .ok (join (lead.toNat - 0xC0) [second], rest)
        else match rest with
          | [] => .error (.truncated, 2)
          | third :: rest =>
              if !isContinuation third then .error (.badContinuation, 2)
              else if lead < 0xF0 then .ok (join (lead.toNat - 0xE0) [second, third], rest)
              else match rest with
                | [] => .error (.truncated, 3)
                | fourth :: rest =>
                    if !isContinuation fourth then .error (.badContinuation, 3)
                    else .ok (join (lead.toNat - 0xF0) [second, third, fourth], rest)

/-- Where decoding stopped: the refusal, the place of the first byte to blame, and those bytes. -/
structure Failure where
  refusal : Refusal
  position : Nat
  culprits : List UInt8
deriving DecidableEq, Repr

theorem decodeOne_length {lead : UInt8} {rest tail : List UInt8} {c : Char}
    (h : decodeOne lead rest = .ok (c, tail)) : tail.length ≤ rest.length := by
  unfold decodeOne at h
  repeat' split at h
  all_goals first
    | (injection h with pair; injection pair with _ same; subst same; simp; try omega)
    | simp at h

/-- The characters of a byte string, the bytes before which number `position`. -/
def decodeFrom (position : Nat) (bytes : List UInt8) : Except Failure (List Char) :=
  match bytes with
  | [] => .ok []
  | lead :: rest =>
      match _h : decodeOne lead rest with
      | .error (refusal, count) => .error ⟨refusal, position, (lead :: rest).take count⟩
      | .ok (c, tail) =>
          match decodeFrom (position + c.utf8Size) tail with
          | .error failure => .error failure
          | .ok chars => .ok (c :: chars)
termination_by bytes.length
decreasing_by
  have := decodeOne_length _h
  simp only [List.length_cons]
  omega

def decode (bytes : List UInt8) : Except Failure (List Char) := decodeFrom 0 bytes

/-- Decoding that writes U+FFFD for each run of bytes that is no character. -/
def decodeLossy (bytes : List UInt8) : List Char :=
  match bytes with
  | [] => []
  | lead :: rest =>
      match _h : decodeOne lead rest with
      | .error (_, count) => '\uFFFD' :: decodeLossy (rest.drop (count - 1))
      | .ok (c, tail) => c :: decodeLossy tail
termination_by bytes.length
decreasing_by
  · simp only [List.length_drop, List.length_cons]; omega
  · have := decodeOne_length _h
    simp only [List.length_cons]
    omega

def encodeOne (c : Char) : List UInt8 :=
  let n := c.toNat
  if n < 0x80 then [n.toUInt8]
  else if n < 0x800 then [(0xC0 + n / 64).toUInt8, (0x80 + n % 64).toUInt8]
  else if n < 0x10000 then
    [(0xE0 + n / 4096).toUInt8, (0x80 + n / 64 % 64).toUInt8, (0x80 + n % 64).toUInt8]
  else
    [(0xF0 + n / 262144).toUInt8, (0x80 + n / 4096 % 64).toUInt8, (0x80 + n / 64 % 64).toUInt8,
      (0x80 + n % 64).toUInt8]

def encode (chars : List Char) : List UInt8 := chars.flatMap encodeOne

end QueryHooks.Text.Utf8
