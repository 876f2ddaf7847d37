import JetsonFabric.Bytes

/-!
# Phases and payload kinds

The part of `inference/stage.cpp` that decides which payload a stage hands on.
-/

namespace JetsonFabric

inductive Phase
  | prefill
  | decode
  deriving DecidableEq

inductive PayloadKind
  | text
  | tokens
  | activation
  | sampledToken
  | sampledTokens
  deriving DecidableEq

/-- The place of a stage in the pipeline. -/
structure StagePosition where
  index : Int := 0
  count : Int := 1
  deriving DecidableEq

/-- The first stage of its pipeline. -/
def StagePosition.isFirst (p : StagePosition) : Bool := p.count > 0 && p.index == 0

/-- The last stage of its pipeline. -/
def StagePosition.isLast (p : StagePosition) : Bool :=
  p.count > 0 && p.index ≥ 0 && p.index < p.count && p.index == p.count - 1

/-- The phase of a name. -/
def parsePhase (value : Bytes) : Except Bytes Phase :=
  if value = str "prefill" then .ok .prefill
  else if value = str "decode" then .ok .decode
  else .error (str "invalid inference phase: " ++ value)

/-- The payload kind of a name. -/
def parsePayloadKind (value : Bytes) : Except Bytes PayloadKind :=
  if value = str "text" then .ok .text
  else if value = str "tokens" then .ok .tokens
  else if value = str "activation" then .ok .activation
  else if value = str "sampled_token" then .ok .sampledToken
  else if value = str "sampled_tokens" then .ok .sampledTokens
  else .error (str "invalid inference payload kind: " ++ value)

/-- The payload a stage hands on: the last one samples. -/
def expectedOutput (_phase : Phase) (position : StagePosition) : Except Bytes PayloadKind :=
  if position.count ≤ 0 ∨ position.index < 0 ∨ position.index ≥ position.count then
    .error (str "invalid stage position")
  else .ok (if position.isLast then .sampledToken else .activation)

end JetsonFabric
