import NodeWarden.ConfigError

/-!
# Settings of the executor

What the executor may do and under which names it publishes labels. The names share a domain, which
has to be a domain name of the cluster's kind: labels between points, each of lower-case ASCII
letters, digits and inner hyphens, and at most 253 bytes in all.
-/

namespace NodeWarden

/-- Where a scanner of domain names stands. -/
inductive DomainState where
  /-- At the start of a label, where a letter or a digit must come. -/
  | start
  /-- After a letter or a digit, where a label may end. -/
  | inside
  /-- After a hyphen, where a label may not end. -/
  | hyphen
  /-- After something that no domain name holds. -/
  | failed
deriving Repr, DecidableEq

namespace DomainState

/-- A lower-case ASCII letter or a digit. -/
def isLabelChar (c : Char) : Bool :=
  ('a' ≤ c && c ≤ 'z') || ('0' ≤ c && c ≤ '9')

/-- The state after a character. -/
def step (s : DomainState) (c : Char) : DomainState :=
  match s with
  | failed => failed
  | start => if isLabelChar c then inside else failed
  | inside =>
    if isLabelChar c then inside else if c = '-' then hyphen else if c = '.' then start else failed
  | hyphen => if isLabelChar c then inside else if c = '-' then hyphen else failed

end DomainState

/-- Whether a text is a domain name, its length left aside. -/
def isDomainName (cs : List Char) : Bool :=
  cs.foldl DomainState.step .start == .inside

/-- What the executor may do. -/
structure ExecutorConfig where
  /-- Whether a node may be deleted at all. -/
  allowDelete : Bool
  /-- Whether scores are published as labels. -/
  publishScore : Bool
  /-- The domain of the published labels. -/
  labelDomain : String
  /-- The most ticks that are skipped after failures. -/
  maxBackoffTicks : UInt32
  /-- Whether actions are only logged. -/
  dryRun : Bool
deriving Repr, DecidableEq

namespace ExecutorConfig

protected def default : ExecutorConfig where
  allowDelete := true
  publishScore := true
  labelDomain := "gnsa.io"
  maxBackoffTicks := 8
  dryRun := false

/-- Refuses a label domain that is no domain name. -/
def validate (c : ExecutorConfig) : Except ConfigError Unit :=
  if 253 < c.labelDomain.utf8ByteSize ∨ isDomainName c.labelDomain.toList = false then
    .error (.invalidThresholds (.labelDomain c.labelDomain))
  else .ok ()

/-- The key of the label that holds the score. -/
def scoreKey (c : ExecutorConfig) : String := c.labelDomain ++ "/score"

/-- The key of the label that holds the mode. -/
def modeKey (c : ExecutorConfig) : String := c.labelDomain ++ "/mode"

/-- The key of the label that holds the condition. -/
def conditionKey (c : ExecutorConfig) : String := c.labelDomain ++ "/condition"

end ExecutorConfig

end NodeWarden
