import RotatorProxy.Mihomo.Links

/-! Lines of a proxy source: which are proxies, and which are handed on as subscriptions. -/
namespace RotatorProxy.Link
open Text Proxy Mihomo

variable (env : LinkExternals)

/-- Where a comment begins: at a `#` behind white space. The text before it is taken in reverse. -/
def cutComment : Str → Str → Option Str
  | _,[] => none
  | before,c::cs =>
    if c = '#' ∧ before.head?.any isWhitespace then some before.reverse else cutComment (c::before) cs

def normalizeSourceLine (line : Str) : Option Str :=
  let line := trim line
  if line=[] ∨ line.head? = some '#' then none
  else match cutComment [] line with
    | some before => nonEmpty (some (trimEnd before))
    | none => some line

inductive ParsedProxyLine
  | native (node : ProxyNode)
  | mihomo (config : MihomoProxyConfig)

def parseProxyLine (line : Str) : Except Str (Option ParsedProxyLine) := do
  match ← parseProxyUrl env line with
  | some proxy => return some (.native proxy)
  | none => return (← parseMihomoProxyUrl env line).map .mihomo

inductive LineOutcome
  | blank
  | proxy (parsed : ParsedProxyLine)
  | subscription (url : Str)
  | unsupported
  | invalid (error : Str)

/-- What `parse_local_content` makes of one line. -/
def sourceLine (allowSubscriptions : Bool) (line : Str) : LineOutcome :=
  match normalizeSourceLine line with
  | none => .blank
  | some line =>
    match parseProxyLine env line with
    | .ok (some parsed) => .proxy parsed
    | .ok none =>
      if allowSubscriptions && isSubscriptionUrl env line then .subscription line else .unsupported
    | .error error =>
      if allowSubscriptions && isSubscriptionUrl env line then .subscription line else .invalid error

end RotatorProxy.Link
