import RotatorProxy.Hysteria.Request
import RotatorProxy.Server.Spellings
import RotatorProxy.Text.LiteralCase
import RotatorProxy.Text.Literals

/-! One destination in the bytes of three protocols: the SOCKS5 request of an outbound proxy, which the
inbound server of this program can read, the header of Trojan and the request of hysteria. -/
namespace RotatorProxy.Server
open Text Proxy Outbound Hysteria

/-- IP literals in canonical text, and names as they are. -/
def canonicalHost (host : Str) : Str :=
  match parseIpAddr host with
  | some ip => ip.display
  | none => host

/-- The encoding fails for long names only, and is read back as the same destination. -/
structure Socks5Agrees (libc : Libc) (target : TargetAddr) : Prop where
  fails : (∃ err, encodeSocks5DomainOrIp target = .error err) ↔
    parseIpAddr target.host=none ∧ 255 < (utf8 target.host).length
  reads : ∀ address, encodeSocks5DomainOrIp target = .ok address → ∀ further ending, ∃ read,
    readSocks5Request libc ⟨[5,1,0]++address++further,ending⟩ = .ok (⟨1,read⟩,⟨further,ending⟩) ∧
      read.host=canonicalHost target.host ∧ read.port=target.port

/-- The target with its name in lower case; IP literals stay as they are. -/
def lowered (target : TargetAddr) : TargetAddr :=
  if (parseIpAddr target.host).isSome then target
  else ⟨toAsciiLowercase target.host,target.port,trim_toAsciiLowercase target.not_blank⟩

/-- Up to the case of names, Trojan has the address of the SOCKS5 encoding in its header, and hysteria
the same host and port in its request. -/
structure AdaptersAgree (lowerHost : Str → Str) (target : TargetAddr) : Prop where
  trojan : ∃ address, encodeSocks5DomainOrIp (lowered target) = .ok address ∧
    ∀ hexPassword, buildHeader hexPassword (metadataFromTarget lowerHost target) =
      .ok (utf8 hexPassword++[13,10]++[1]++address++[13,10])
  hysteria : ∃ request,
    (targetFromMetadata (metadataFromTarget lowerHost target)).bind encodeClientRequest = .ok request ∧
      decodeClientRequest request = some (canonicalHost (lowered target).host,target.port)

theorem socks5Agrees (libc : Libc) (target : TargetAddr) : Socks5Agrees libc target := by
  constructor
  · unfold encodeSocks5DomainOrIp
    cases hparse : parseIpAddr target.host with
    | some ip => simp
    | none =>
      dsimp only
      split_ifs with hlen
      · simp [hlen]
      · simp [hlen]
  · intro address haddress further ending
    unfold encodeSocks5DomainOrIp at haddress
    unfold canonicalHost
    cases hparse : parseIpAddr target.host with
    | some ip =>
      rw [hparse] at haddress
      cases haddress
      cases ip with
      | v4 ip =>
        have hnew := TargetAddr.new_ok target.port (Host.v4 ip).text_notBlank
        exact ⟨_,readSocks5Request_v4 further ending hnew,rfl,rfl⟩
      | v6 ip =>
        have hnew := TargetAddr.new_ok target.port (Host.v6 ip).text_notBlank
        exact ⟨_,readSocks5Request_v6 further ending hnew,rfl,rfl⟩
    | none =>
      rw [hparse] at haddress
      dsimp only at haddress
      split_ifs at haddress with hlen
      cases haddress
      exact ⟨target,readSocks5Request_domain further ending (by omega)
        (TargetAddr.new_ok target.port target.not_blank),rfl,rfl⟩

/-! The two adapters -/

lemma bracket_case {c : Char} (hc : c= '[' ∨ c= ']') (d : Char) : asciiLowercase d=c ↔ d=c := by
  obtain rfl | rfl := hc
  · exact asciiLowercase_eq_iff (fun h => absurd h.2 (by decide)) (fun h => absurd h.1 (by decide))
  · exact asciiLowercase_eq_iff (fun h => absurd h.2 (by decide)) (fun h => absurd h.1 (by decide))

lemma ipAddr_bracket_notMem (ip : IpAddr) {c : Char} (hc : c= '[' ∨ c= ']') : c ∉ ip.display := by
  cases ip with
  | v4 ip => exact (Host.v4 ip).bracket_notMem hc
  | v6 ip => exact (Host.v6 ip).bracket_notMem hc

/-- What is printed of a literal is split into it and the port. -/
lemma splitHostPort_socketAddr (ip : IpAddr) (port : UInt16) :
    splitHostPort (socketAddrDisplay ip port) = .ok (ip.display,port) := by
  have hopen := ipAddr_bracket_notMem ip (.inl rfl)
  have hclose := ipAddr_bracket_notMem ip (.inr rfl)
  cases ip with
  | v4 ip =>
    apply splitHostPort_append
    exact (congrArg _ (trimStartMatches_self hopen)).trans (trimEndMatches_self hclose)
  | v6 ip =>
    apply splitHostPort_append
    exact trimMatches_bracketed hopen hclose

variable {lowerHost : Str → Str}

/-- A literal travels as an address. -/
lemma adaptersAgree_literal (lowerHost : Str → Str) {target : TargetAddr} (hport : target.port ≠ 0)
    {ip : IpAddr} (hparse : parseIpAddr target.host=some ip) : AdaptersAgree lowerHost target := by
  have hlowered : lowered target=target := by rw [lowered,if_pos (by rw [hparse,Option.isSome_some])]
  have hmetadata : metadataFromTarget lowerHost target=⟨[],some ip,target.port⟩ := by
    rw [metadataFromTarget,hparse]
  have hencode : encodeSocks5DomainOrIp target = .ok (encodeSocks5Ip ip target.port) := by
    rw [encodeSocks5DomainOrIp,hparse]
  have htarget : targetFromMetadata ⟨[],some ip,target.port⟩ = .ok (socketAddrDisplay ip target.port) := by
    rw [targetFromMetadata,if_neg hport]
    rfl
  have hshort := ip.display_length
  constructor
  · rw [hlowered,hmetadata]
    refine ⟨_,hencode,fun hexPassword => ?_⟩
    cases ip <;> rfl
  · rw [hlowered,hmetadata,htarget,canonicalHost,hparse]
    exact decodeClientRequest_encode (splitHostPort_socketAddr ip target.port) (hshort.trans (by omega))

section
variable {host : Str} {port : UInt16}

lemma buildHeader_name (hne : host ≠ []) (hlen : (utf8 host).length ≤ 255) (hexPassword : Str) :
    buildHeader hexPassword ⟨host,none,port⟩ = .ok (utf8 hexPassword++[13,10]++[1]++
      ([3,UInt8.ofNat (utf8 host).length]++utf8 host++toBeBytes port)++[13,10]) := by
  rw [buildHeader,encodeSocksAddrFromMetadata,if_pos hne]
  dsimp only
  rw [if_neg (by omega)]
  rfl

lemma targetFromMetadata_name (hne : host ≠ []) (hparse : parseIpAddr host=none) (hport : port ≠ 0) :
    targetFromMetadata ⟨host,none,port⟩ = .ok (host++ ':'::decimal port.toNat) := by
  rw [targetFromMetadata,if_neg hport,if_pos hne]
  dsimp only
  rw [hparse]

lemma splitHostPort_name (hopen : '[' ∉ host) (hclose : ']' ∉ host) :
    splitHostPort (host++ ':'::decimal port.toNat) = .ok (host,port) := by
  apply splitHostPort_append
  rw [trimStartMatches_self hopen,trimEndMatches_self hclose]

end

/-- A name travels in lower case. -/
lemma adaptersAgree_name (hlower : ∀ host, lowerHost host=toAsciiLowercase host) {target : TargetAddr}
    (hport : target.port ≠ 0) (hopen : '[' ∉ target.host) (hclose : ']' ∉ target.host)
    (hlen : (utf8 target.host).length ≤ 255) (hparse : parseIpAddr target.host=none) :
    AdaptersAgree lowerHost target := by
  have hblank := trim_toAsciiLowercase target.not_blank
  have hlowered : lowered target=⟨toAsciiLowercase target.host,target.port,hblank⟩ := by
    rw [lowered,if_neg (by rw [hparse]; exact Bool.false_ne_true)]
  have hmetadata : metadataFromTarget lowerHost target=⟨toAsciiLowercase target.host,none,target.port⟩ := by
    rw [metadataFromTarget,hparse,← hlower]
  have hne : toAsciiLowercase target.host ≠ [] := by
    intro hnil
    apply hblank
    rw [hnil]
    rfl
  have hcase : parseIpAddr (toAsciiLowercase target.host)=none := by
    rw [parseIpAddr_toAsciiLowercase,hparse]
  have hsplit : splitHostPort (toAsciiLowercase target.host++ ':'::decimal target.port.toNat) =
      .ok (toAsciiLowercase target.host,target.port) :=
    splitHostPort_name (notMem_toAsciiLowercase (bracket_case (.inl rfl)) hopen)
      (notMem_toAsciiLowercase (bracket_case (.inr rfl)) hclose)
  rw [← utf8_toAsciiLowercase_length] at hlen
  constructor
  · refine ⟨[3,UInt8.ofNat (utf8 (toAsciiLowercase target.host)).length]++
      utf8 (toAsciiLowercase target.host)++toBeBytes target.port,?_,fun hexPassword => ?_⟩
    · rw [hlowered,encodeSocks5DomainOrIp]
      dsimp only
      rw [hcase]
      exact if_neg (by omega)
    · rw [hmetadata,buildHeader_name hne hlen]
  · rw [hmetadata,hlowered,targetFromMetadata_name hne hcase hport,canonicalHost]
    dsimp only
    rw [hcase]
    exact decodeClientRequest_encode hsplit (hlen.trans (by omega))

/-- All encoders carry the same destination. -/
theorem encoders_agree (libc : Libc) (hlower : ∀ host, lowerHost host=toAsciiLowercase host)
    {target : TargetAddr} (hport : target.port ≠ 0) (hopen : '[' ∉ target.host) (hclose : ']' ∉ target.host) :
    Socks5Agrees libc target ∧ ((utf8 target.host).length ≤ 255 → AdaptersAgree lowerHost target) := by
  refine ⟨socks5Agrees libc target,fun hlen => ?_⟩
  cases hparse : parseIpAddr target.host with
  | some ip => exact adaptersAgree_literal lowerHost hport hparse
  | none => exact adaptersAgree_name hlower hport hopen hclose hlen hparse

def exampleTarget : TargetAddr := ⟨"Example.com".toList,443,by decide⟩

theorem encoders_agree_name :
    Socks5Agrees .sample exampleTarget ∧
      ((utf8 exampleTarget.host).length ≤ 255 ∧ AdaptersAgree toAsciiLowercase exampleTarget) := by
  have hlower : ∀ host, toAsciiLowercase host=toAsciiLowercase host := fun _ => rfl
  have hport : exampleTarget.port ≠ 0 := by decide
  have hopen : '[' ∉ exampleTarget.host := by decide
  have hclose : ']' ∉ exampleTarget.host := by decide
  have hlen : (utf8 exampleTarget.host).length ≤ 255 := by decide
  have hagree := encoders_agree .sample hlower hport hopen hclose
  exact ⟨hagree.1,hlen,hagree.2 hlen⟩

end RotatorProxy.Server
