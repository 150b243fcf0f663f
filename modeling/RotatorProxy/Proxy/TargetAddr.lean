import RotatorProxy.Proxy.Node

/-! Where a client wants to go: a host that is not blank, and a port. -/
namespace RotatorProxy.Proxy
open Text

structure TargetAddr where
  host : Str
  port : UInt16
  not_blank : trim host ≠ []
  deriving DecidableEq

/-- `Display` of the error of `parse::<u16>` on a text that it refuses. -/
def parseU16Error (s : Str) : Str :=
  if s=[] then "cannot parse integer from empty string".toList
  else
    let digits := (stripPrefix '+' s).getD s
    if 65536 ≤ Nat.ofDigitChars 10 (digits.takeWhile Char.isDigit) 0 then
      "number too large to fit in target type".toList
    else "invalid digit found in string".toList

def parsePort (s : Str) : Except Str UInt16 :=
  match parseU16 s with
  | some port => .ok port
  | none => .error (parseU16Error s)

namespace TargetAddr

def new (host : Str) (port : UInt16) : Except Str TargetAddr :=
  if h : trim host=[] then .error "目标 host 不能为空".toList else .ok ⟨host,port,h⟩

def portOr (authority : Str) : Option UInt16 → Except Str UInt16
  | some port => .ok port
  | none => .error ("authority 缺少端口：".toList++authority)

def parse (authority : Str) (defaultPort : Option UInt16) : Except Str TargetAddr :=
  let authority := trim authority
  if authority=[] then .error "目标 authority 为空".toList
  else match stripPrefix '[' authority with
    | some rest =>
      match splitOnce ']' rest with
      | none => .error ("IPv6 authority 无效：".toList++authority)
      | some (host,after) =>
        let port := match stripPrefix ':' after with
          | some port => parsePort port
          | none => portOr authority defaultPort
        port.bind (new host)
    | none =>
      match (rsplitOnce ':' authority).filter (fun p => decide (':' ∉ p.1)) with
      | some (host,port) => (parsePort port).bind (new host)
      | none => (portOr authority defaultPort).bind (new authority)

def display (target : TargetAddr) : Str := displayHostPort target.host target.port

example : (parse "example.com:443".toList none).toOption.map (fun t => (t.host,t.port)) =
    some ("example.com".toList,443) := by decide

example : (parse " [2001:db8::1] ".toList (some 80)).toOption.map (fun t => (t.host,t.port)) =
    some ("2001:db8::1".toList,80) := by decide

theorem new_ok {host : Str} (port : UInt16) (h : trim host ≠ []) : new host port = .ok ⟨host,port,h⟩ :=
  dif_neg h

theorem new_eq_ok {host : Str} {port : UInt16} {target : TargetAddr} (h : new host port = .ok target) :
    target.host=host ∧ target.port=port := by
  unfold new at h
  split at h
  · cases h
  · cases h
    exact ⟨rfl,rfl⟩

end TargetAddr
end RotatorProxy.Proxy
