import JetsonFabric.Generation.Runner
import JetsonFabric.Inference.Executor

/-!
# Token payloads

`inference/token_payload.cpp`: tokens as little-endian words, one or several in a payload.
-/

namespace JetsonFabric

/-- A token in four bytes. -/
def appendI32LE (token : Int32) : Bytes := writeU32LE token.toUInt32

/-- The words of a byte string. -/
def readI32s : Bytes → List Int32
  | b0 :: b1 :: b2 :: b3 :: rest => (readU32LE b0 b1 b2 b3).toInt32 :: readI32s rest
  | _ => []

/-- The tensor of so many tokens. -/
def tokenDescriptor (count : Nat) : TensorDescriptor :=
  { dtype := str "i32", shape := [count], byteOrder := str "little", layout := str "row_major" }

/-- The exception of a bad payload. -/
def invalidTokenPayload : Thrown :=
  .invalidArgument (str "token payload must be a little-endian i32 or u32 vector")

/-- The tokens of a payload. -/
def decodeTokenIds (payload : Payload) : Except Thrown (List Int32) :=
  match payload.tensor.shape with
  | [count] =>
    if (payload.tensor.dtype ≠ str "i32" ∧ payload.tensor.dtype ≠ str "u32") ∨ count ≤ 0 ∨
        payload.tensor.byteOrder ≠ str "little" ∨ payload.tensor.layout ≠ str "row_major" ∨
        payload.bytes.length % 4 ≠ 0 ∨ count.toNat ≠ payload.bytes.length / 4 then
      .error invalidTokenPayload
    else .ok (readI32s payload.bytes)
  | _ => .error invalidTokenPayload

/-- The one token of a payload. -/
def decodeSingleToken (payload : Payload) : Except Thrown Int32 :=
  match decodeTokenIds payload with
  | .error thrown => .error thrown
  | .ok [token] => .ok token
  | .ok _ => .error (.invalidArgument (str "token payload must contain exactly one token"))

/-- A payload of one token. -/
def sampledTokenPayload (token : Int32) : Payload :=
  { kind := .sampledToken, tensor := tokenDescriptor 1, bytes := appendI32LE token }

/-- A payload of several tokens. -/
def sampledTokensPayload (tokens : List Int32) : Except Thrown Payload :=
  if tokens.length < 2 then
    .error (.invalidArgument (str "sampled_tokens payload requires at least two tokens"))
  else
    .ok { kind := .sampledTokens
          tensor := tokenDescriptor tokens.length
          bytes := tokens.flatMap appendI32LE }

end JetsonFabric
