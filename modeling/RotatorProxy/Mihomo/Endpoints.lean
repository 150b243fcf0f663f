import RotatorProxy.Library.Outcome
import RotatorProxy.Link.Secrets
import RotatorProxy.Mihomo.Clash
import RotatorProxy.Text.Literals

/-! One endpoint in its two spellings: a link, where an IPv6 address stands in brackets, and an entry of a Clash
document, where it does not. -/
namespace RotatorProxy.Mihomo
open Text Proxy Link Library

inductive HostKind
  | ipv4
  | ipv6
  | name
  deriving DecidableEq

/-- Small letters, digits and the signs of names. -/
def isNameChar (c : Char) : Bool := decide ('a' ≤ c ∧ c ≤ 'z') || c.isDigit || decide (c ∈ ['-','.','_'])

def HostKind.Is (host : Str) : HostKind → Prop
  | ipv4 => ∃ ip, parseIpAddr host=some (.v4 ip)
  | ipv6 => ∃ ip, parseIpAddr host=some (.v6 ip)
  | name => host ≠ [] ∧ ∀ c ∈ host, isNameChar c = true

/-- The schemes; of the forms of a Shadowsocks link one has its user information in base64, and the older
one is base64 as a whole. -/
inductive EndpointScheme
  | http
  | https
  | socks5
  | ss
  | ssUserinfo (encoded : Str)
  | ssEncoded (encoded : Str)
  deriving DecidableEq

/-- The user information is percent-encoded, as it stands in a link or in what base64 hides of it. -/
structure Endpoint where
  scheme : EndpointScheme
  kind : HostKind
  host : Str
  port : UInt16
  userinfo : Option (Str × Str)

namespace Endpoint
variable (endpoint : Endpoint)

def bracketed (host : Str) : Str := if endpoint.kind = .ipv6 then '['::(host++[']']) else host

/-! The link -/

def user : Str := (endpoint.userinfo.map Prod.fst).getD []

def password : Str := (endpoint.userinfo.map Prod.snd).getD []

/-- A link whose host is written like this. -/
def proxyLink (scheme : ProxyScheme) (host : Str) : ProxyLink :=
  ⟨scheme,endpoint.userinfo,endpoint.bracketed host,endpoint.port⟩

def authority (host : Str) : Str := endpoint.bracketed host++ ':'::decimal endpoint.port.toNat

def ssText (host : Str) : Str :=
  "ss://".toList++(endpoint.user++ ':'::endpoint.password++ '@'::endpoint.authority host)

def ssUserinfoText (encoded : Str) : Str := "ss://".toList++(encoded++ '@'::endpoint.authority endpoint.host)

def text : Str := match endpoint.scheme with
  | .http => (endpoint.proxyLink .http endpoint.host).text
  | .https => (endpoint.proxyLink .https endpoint.host).text
  | .socks5 => (endpoint.proxyLink .socks5 endpoint.host).text
  | .ss => endpoint.ssText endpoint.host
  | .ssUserinfo encoded => endpoint.ssUserinfoText encoded
  | .ssEncoded encoded => "ss://".toList++encoded

/-- The URL crate does not know the scheme, so it keeps every port. -/
def ssUrl (username : Str) (password : Option Str) (host : Str) : Url where
  scheme := "ss".toList
  username := username
  password := password
  hostStr := some (endpoint.bracketed host)
  port := some endpoint.port
  portOrKnownDefault := some endpoint.port
  path := []
  query := none
  queryPairs := []
  fragment := none
  asStr := endpoint.ssText host

/-- The crates read the link: the URL crate, which spells an IPv6 address its own way and puts it in
brackets, and the base64 decoder. The URL crate percent-encodes padding in the user information. -/
def Read (env : LinkExternals) : Prop :=
  ∃ host, parseIpAddr host=parseIpAddr endpoint.host ∧ (endpoint.kind ≠ .ipv6 → host=endpoint.host) ∧
    match endpoint.scheme with
    | .http => env.parseUrl endpoint.text=some (endpoint.proxyLink .http host).url
    | .https => env.parseUrl endpoint.text=some (endpoint.proxyLink .https host).url
    | .socks5 => env.parseUrl endpoint.text=some (endpoint.proxyLink .socks5 host).url
    | .ss => env.parseUrl endpoint.text=some (endpoint.ssUrl endpoint.user (some endpoint.password) host)
    | .ssUserinfo encoded => ∃ username, env.percentDecode username=encoded ∧
      env.parseUrl endpoint.text=some (endpoint.ssUrl username none host) ∧
      (decodeBase64Text env username).or (decodeBase64Text env encoded)=
        some (endpoint.user++ ':'::endpoint.password)
    | .ssEncoded encoded => (∀ url ∈ env.parseUrl endpoint.text, url.port=none) ∧
      decodeBase64Text env encoded=
        some (endpoint.user++ ':'::endpoint.password++ '@'::endpoint.authority endpoint.host)

/-- Shadowsocks needs a cipher and a password that the crate takes. -/
def SsAccepted (env : LinkExternals) : Prop :=
  ∃ kind, env.cipherKindFromStr (normalizeSsCipher (env.percentDecode endpoint.user))=some kind ∧
    ∀ host port, ∃ server, env.serverConfigNew host port (env.percentDecode endpoint.password) kind=some server ∧
      server.host=host

/-- What the scheme asks for. -/
def Ready (env : LinkExternals) : Prop := match endpoint.scheme with
  | .http => endpoint.port ≠ 80
  | .https => endpoint.user ≠ []
  | .socks5 => True
  | .ss => endpoint.userinfo.isSome ∧ endpoint.SsAccepted env
  | .ssUserinfo encoded => (∀ c ∈ encoded, isPlain c = true ∨ c ∈ ['+','/','=']) ∧
    endpoint.userinfo.isSome ∧ endpoint.SsAccepted env
  | .ssEncoded encoded => (∀ c ∈ encoded, isPlain c = true ∨ c ∈ ['+','/','=']) ∧
    endpoint.userinfo.isSome ∧ endpoint.SsAccepted env

structure Valid (env : LinkExternals) : Prop where
  host : endpoint.kind.Is endpoint.host
  userinfo : ∀ u ∈ endpoint.userinfo, (∀ c ∈ u.1, isPlain c = true) ∧ ∀ c ∈ u.2, isPlain c = true
  ready : endpoint.Ready env
  read : endpoint.Read env

/-! The Clash entry -/

def clashAddress (kind : Str) : Mapping :=
  [(.string "type".toList,.string kind),(.string "server".toList,.string endpoint.host),
    (.string "port".toList,.number (.posInt endpoint.port.toNat))]

def clashUser (env : LinkExternals) : Mapping := match endpoint.userinfo with
  | some (user,password) => [(.string "username".toList,.string (env.percentDecode user)),
      (.string "password".toList,.string (env.percentDecode password))]
  | none => []

def mapping (env : LinkExternals) : Mapping := match endpoint.scheme with
  | .http => endpoint.clashAddress "http".toList++endpoint.clashUser env
  | .https => endpoint.clashAddress "http".toList++(.string "tls".toList,.bool true)::endpoint.clashUser env
  | .socks5 => endpoint.clashAddress "socks5".toList++endpoint.clashUser env
  | .ss | .ssUserinfo _ | .ssEncoded _ => endpoint.clashAddress "ss".toList++
      [(.string "cipher".toList,.string (env.percentDecode endpoint.user)),
        (.string "password".toList,.string (env.percentDecode endpoint.password))]

end Endpoint

/-- The host text of a native node -/
def serverHost : ProxyNode → Option Str
  | .http addr _ => some addr.host
  | .https addr _ _ _ => some addr.host
  | .socks5 addr _ _ => some addr.host
  | .socks4 addr _ _ => some addr.host
  | .shadowsocks server _ => some server.host
  | _ => none

/-! Hosts -/

lemma isPlain_of_digit {c : Char} (h : c.isDigit = true) : isPlain c = true := by
  have hrange : 48 ≤ c.toNat ∧ c.toNat ≤ 57 := by
    simpa [Char.isDigit,UInt32.le_iff_toNat_le] using h
  simp [isPlain,hrange]

lemma isPlain_of_name {c : Char} (h : isNameChar c = true) : isPlain c = true := by
  simp only [isNameChar,Bool.or_eq_true,decide_eq_true_eq] at h
  obtain (h | h) | h := h
  · have hrange : 97 ≤ c.toNat ∧ c.toNat ≤ 122 := h
    simp [isPlain,hrange]
  · exact isPlain_of_digit h
  · simp only [List.mem_cons,List.not_mem_nil,or_false] at h
    obtain rfl | rfl | rfl := h <;> decide

lemma isPlain_of_toDigit {radix : ℕ} {c : Char} (h : (toDigit radix c).isSome) : isPlain c = true := by
  unfold toDigit at h
  dsimp only at h
  split_ifs at h with hdigit hsmall hcapital
  · have hrange : 48 ≤ c.toNat ∧ c.toNat ≤ 57 := hdigit
    simp [isPlain,hrange]
  · have hrange : 97 ≤ c.toNat ∧ c.toNat ≤ 122 := hsmall
    simp [isPlain,hrange]
  · have hrange : 65 ≤ c.toNat ∧ c.toNat ≤ 90 := hcapital
    simp [isPlain,hrange]
  · cases h

lemma isPlain_of_ipv4 {c : Char} (h : IsIpv4Char c) : isPlain c = true := by
  obtain h | rfl := h
  · exact isPlain_of_toDigit h
  · decide

lemma HostKind.Is.ne_nil {kind : HostKind} {host : Str} (h : kind.Is host) : host ≠ [] := by
  cases kind with
  | ipv4 => exact parseIpAddr_ne_nil h.choose_spec
  | ipv6 => exact parseIpAddr_ne_nil h.choose_spec
  | name => exact h.1

lemma HostKind.Is.plain {kind : HostKind} {host : Str} (h : kind.Is host) (hkind : kind ≠ .ipv6) :
    ∀ c ∈ host, isPlain c = true := by
  cases kind with
  | ipv4 => exact fun c hc => isPlain_of_ipv4 (parseIpAddr_v4_chars h.choose_spec c hc)
  | ipv6 => exact absurd rfl hkind
  | name => exact fun c hc => isPlain_of_name (h.2 c hc)

/-- Neither a bracket nor white space nor an `@` is in a host. -/
lemma HostKind.Is.not_mem {kind : HostKind} {host : Str} (h : kind.Is host) {c : Char} (hplain : isPlain c = false)
    (hliteral : ¬IsLiteralChar c) : c ∉ host := by
  intro hc
  cases kind with
  | ipv4 => exact hliteral (parseIpAddr_chars h.choose_spec c hc)
  | ipv6 => exact hliteral (parseIpAddr_chars h.choose_spec c hc)
  | name =>
    rw [isPlain_of_name (h.2 c hc)] at hplain
    cases hplain

lemma HostKind.Is.trim {kind : HostKind} {host : Str} (h : kind.Is host) : trim host=host := by
  refine trim_eq_self fun c hc => ?_
  cases kind with
  | ipv4 => exact isPlain_not_space (h.plain HostKind.noConfusion c hc)
  | name => exact isPlain_not_space (h.plain HostKind.noConfusion c hc)
  | ipv6 =>
    obtain hdigit | rfl | rfl := parseIpAddr_chars h.choose_spec c hc
    · exact isPlain_not_space (isPlain_of_toDigit hdigit)
    · decide
    · decide

/-! Both spellings of a valid endpoint -/

namespace Endpoint
variable {endpoint : Endpoint} {env : LinkExternals}

/-- What `split_host_port` takes apart again -/
lemma splitHostPort_authority (h : endpoint.kind.Is endpoint.host) :
    splitHostPort (endpoint.authority endpoint.host) = .ok (endpoint.host,endpoint.port) := by
  have hport : parsePort (decimal endpoint.port.toNat) = .ok endpoint.port := by
    rw [parsePort,parseU16_decimal]
  have hcolon : ':' ∉ decimal endpoint.port.toNat := plain_not_mem (digits_plain _) (by decide)
  have hopen : '[' ∉ endpoint.host := h.not_mem (by decide) (by decide)
  have hclose : ']' ∉ endpoint.host := h.not_mem (by decide) (by decide)
  by_cases hkind : endpoint.kind = .ipv6
  · have hauthority : endpoint.authority endpoint.host=
        '['::(endpoint.host++ ']':: ':'::decimal endpoint.port.toNat) := by
      simp [authority,bracketed,hkind]
    rw [hauthority,splitHostPort,stripPrefix,if_pos rfl]
    dsimp only
    rw [splitOnce_append hclose]
    dsimp only
    rw [stripPrefix,if_pos rfl]
    dsimp only
    rw [hport]
    rfl
  · have hauthority : endpoint.authority endpoint.host=endpoint.host++ ':'::decimal endpoint.port.toNat := by
      rw [authority,bracketed,if_neg hkind]
    have hstrip : stripPrefix '[' (endpoint.authority endpoint.host)=none := by
      obtain ⟨c,cs,hhost⟩ := List.exists_cons_of_ne_nil h.ne_nil
      rw [hauthority,hhost,List.cons_append,stripPrefix,if_neg]
      rintro rfl
      exact hopen (hhost ▸ List.mem_cons_self)
    have hno : ':' ∉ endpoint.host := plain_not_mem (h.plain hkind) (by decide)
    rw [splitHostPort,hstrip]
    dsimp only
    rw [hauthority,rsplitOnce_append hcolon,Option.filter_some,if_pos (by simp [hno])]
    dsimp only
    rw [hport]
    rfl

/-- A host that is written in brackets is not the host without them. -/
lemma bracketed_ne (h : endpoint.kind.Is endpoint.host) (hkind : endpoint.kind = .ipv6) (host : Str) :
    endpoint.bracketed host ≠ endpoint.host := by
  rw [bracketed,if_pos hkind]
  intro heq
  have hopen : '[' ∉ endpoint.host := h.not_mem (by decide) (by decide)
  rw [← heq] at hopen
  exact hopen List.mem_cons_self

lemma shadowsocksServer_eq (h : endpoint.SsAccepted env) (host : Str) : ∃ server,
    shadowsocksServer env host endpoint.port (env.percentDecode endpoint.user)
      (env.percentDecode endpoint.password) = .ok server ∧ server.host=host := by
  obtain ⟨kind,hcipher,hserver⟩ := h
  obtain ⟨server,hnew,hhost⟩ := hserver host endpoint.port
  refine ⟨server,?_,hhost⟩
  unfold shadowsocksServer
  simp only [hcipher,hnew]

/-! The Clash side -/

lemma deserialize_port (port : UInt16) :
    deserializeOptionalU16 (.number (.posInt port.toNat))=some (some port) := by
  have hport : port.toNat < 2^16 := port.toNat_lt
  have hread : (valueToU64 (.number (.posInt port.toNat))).filter (fun n => decide (n < 2^16))=some port.toNat := by
    rw [valueToU64,asU64,Option.filter_some,if_pos (decide_eq_true hport)]
  rw [deserializeOptionalU16,readOption,hread]
  · simp
  · simp

/-- The typed form of an entry that is no Shadowsocks server -/
def clashEntry (env : LinkExternals) (endpoint : Endpoint) (kind : Str) (tls : Option Bool) : ClashProxy :=
  ⟨none,kind,some endpoint.host,some endpoint.port,endpoint.userinfo.map (fun u => env.percentDecode u.1),
    endpoint.userinfo.map (fun u => env.percentDecode u.2),none,none,tls,none,[]⟩

def ssEntry (env : LinkExternals) (endpoint : Endpoint) : ClashProxy :=
  ⟨none,"ss".toList,some endpoint.host,some endpoint.port,none,some (env.percentDecode endpoint.password),
    some (env.percentDecode endpoint.user),none,none,none,[]⟩

lemma clashEntry_read (kind : Str) (tls : Option Bool) (endpoint : Endpoint) (env : LinkExternals) :
    clashProxyFromValue (.mapping (endpoint.clashAddress kind++
      (tls.map (fun on => (YamlValue.string "tls".toList,YamlValue.bool on))).toList++endpoint.clashUser env))=
        some (clashEntry env endpoint kind tls) := by
  rw [clashProxyFromValue_eq_some_iff]
  unfold clashUser clashEntry
  cases endpoint.userinfo <;> cases tls
  all_goals exact ⟨⟨_,rfl,rfl⟩,rfl,rfl,rfl,deserialize_port endpoint.port,rfl,rfl,rfl,rfl,rfl,rfl⟩

lemma ssEntry_read (endpoint : Endpoint) (env : LinkExternals) :
    clashProxyFromValue (.mapping (endpoint.clashAddress "ss".toList++
      [(.string "cipher".toList,.string (env.percentDecode endpoint.user)),
        (.string "password".toList,.string (env.percentDecode endpoint.password))]))=
          some (ssEntry env endpoint) :=
  clashProxyFromValue_eq_some_iff.mpr
    ⟨⟨_,rfl,rfl⟩,rfl,rfl,rfl,deserialize_port endpoint.port,rfl,rfl,rfl,rfl,rfl,rfl⟩

lemma hostPort_new (h : endpoint.kind.Is endpoint.host) :
    HostPort.new endpoint.host endpoint.port = .ok ⟨endpoint.host,endpoint.port⟩ := by
  rw [HostPort.new,h.trim,if_neg h.ne_nil]

lemma clashHttp_node (h : endpoint.kind.Is endpoint.host) (kind : Str) (tls : Option Bool) (name : Str) : ∃ node,
    clashHttp (clashEntry env endpoint kind tls) name = .ok node ∧ serverHost node=some endpoint.host := by
  by_cases hon : tls.getD false = true
  · exact ⟨_,bind_eq_ok.mpr ⟨_,hostPort_new h,if_pos hon⟩,rfl⟩
  · exact ⟨_,bind_eq_ok.mpr ⟨_,hostPort_new h,if_neg hon⟩,rfl⟩

lemma clashSocks5_node (h : endpoint.kind.Is endpoint.host) (kind : Str) (tls : Option Bool) (name : Str) : ∃ node,
    clashSocks5 (clashEntry env endpoint kind tls) name = .ok node ∧ serverHost node=some endpoint.host :=
  ⟨_,bind_eq_ok.mpr ⟨_,hostPort_new h,rfl⟩,rfl⟩

lemma clashShadowsocks_node (h : endpoint.SsAccepted env) (name : Str) : ∃ node,
    clashShadowsocks env.toExternals (ssEntry env endpoint) name = .ok node ∧
      serverHost node=some endpoint.host := by
  obtain ⟨kind,hcipher,hserver⟩ := h
  obtain ⟨server,hnew,hhost⟩ := hserver endpoint.host endpoint.port
  refine ⟨.shadowsocks server name,?_,congrArg some hhost⟩
  simp only [clashShadowsocks,ssEntry,clashServerPort,clashRequired,Option.or_none,hcipher,hnew,bind,Except.bind]

/-- The Clash entry gives a node whose host is the one that is written. -/
lemma clash_node (h : endpoint.Valid env) : ∃ node,
    (clashLoaded env.toExternals (.mapping (endpoint.mapping env))).native=[node] ∧
      serverHost node=some endpoint.host := by
  have hss : endpoint.SsAccepted env → ∃ node, (clashLoaded env.toExternals (.mapping
      (endpoint.clashAddress "ss".toList++[(.string "cipher".toList,.string (env.percentDecode endpoint.user)),
        (.string "password".toList,.string (env.percentDecode endpoint.password))]))).native=[node] ∧
      serverHost node=some endpoint.host := by
    intro haccepted
    obtain ⟨node,hnode,hhost⟩ := clashShadowsocks_node haccepted "ss".toList
    exact ⟨node,clashLoaded_native_iff.mpr ⟨_,ssEntry_read endpoint env,map_eq_ok.mpr ⟨node,hnode,rfl⟩⟩,hhost⟩
  have hready := h.ready
  unfold Ready at hready
  cases hscheme : endpoint.scheme with
  | http =>
    have hmapping : endpoint.mapping env=endpoint.clashAddress "http".toList++[]++endpoint.clashUser env := by
      rw [mapping,hscheme,List.append_nil]
    obtain ⟨node,hnode,hhost⟩ := clashHttp_node h.host "http".toList none "http".toList
    rw [hmapping]
    exact ⟨node,clashLoaded_native_iff.mpr ⟨_,clashEntry_read "http".toList none endpoint env,
      (clashEntryToProxy_http rfl).trans (map_eq_ok.mpr ⟨node,hnode,rfl⟩)⟩,hhost⟩
  | https =>
    have hmapping : endpoint.mapping env=endpoint.clashAddress "http".toList++
        [(.string "tls".toList,.bool true)]++endpoint.clashUser env := by
      rw [mapping,hscheme,List.append_assoc]
      rfl
    obtain ⟨node,hnode,hhost⟩ := clashHttp_node h.host "http".toList (some true) "http".toList
    rw [hmapping]
    exact ⟨node,clashLoaded_native_iff.mpr ⟨_,clashEntry_read "http".toList (some true) endpoint env,
      (clashEntryToProxy_http rfl).trans (map_eq_ok.mpr ⟨node,hnode,rfl⟩)⟩,hhost⟩
  | socks5 =>
    have hmapping : endpoint.mapping env=endpoint.clashAddress "socks5".toList++[]++endpoint.clashUser env := by
      rw [mapping,hscheme,List.append_nil]
    obtain ⟨node,hnode,hhost⟩ := clashSocks5_node h.host "socks5".toList none "socks5".toList
    rw [hmapping]
    exact ⟨node,clashLoaded_native_iff.mpr ⟨_,clashEntry_read "socks5".toList none endpoint env,
      map_eq_ok.mpr ⟨node,hnode,rfl⟩⟩,hhost⟩
  | ss =>
    rw [hscheme] at hready
    rw [mapping,hscheme]
    exact hss hready.2
  | ssUserinfo encoded | ssEncoded encoded =>
    rw [hscheme] at hready
    rw [mapping,hscheme]
    exact hss hready.2.2

/-! The link side -/

def IsLinkChar (c : Char) : Prop := isPlain c = true ∨ c ∈ [':','/','@','[',']','+','=']

lemma IsLinkChar.noSpace {c : Char} (h : IsLinkChar c) : isWhitespace c = false := by
  obtain h | h := h
  · exact isPlain_not_space h
  · simp only [List.mem_cons,List.not_mem_nil,or_false] at h
    obtain rfl | rfl | rfl | rfl | rfl | rfl | rfl := h <;> decide

lemma bracketed_chars (h : endpoint.kind.Is endpoint.host) :
    ∀ c ∈ endpoint.bracketed endpoint.host, IsLinkChar c := by
  intro c hc
  by_cases hkind : endpoint.kind = .ipv6
  · have hliteral : ∀ c ∈ endpoint.host, IsLinkChar c := by
      rw [hkind] at h
      intro c hc
      obtain hdigit | rfl | rfl := parseIpAddr_chars h.choose_spec c hc
      · exact .inl (isPlain_of_toDigit hdigit)
      · exact .inr (by decide)
      · exact .inl (by decide)
    rw [bracketed,if_pos hkind,List.mem_cons,List.mem_append,List.mem_singleton] at hc
    obtain rfl | hc | rfl := hc
    · exact .inr (by decide)
    · exact hliteral c hc
    · exact .inr (by decide)
  · rw [bracketed,if_neg hkind] at hc
    exact .inl (h.plain hkind c hc)

lemma authority_chars (h : endpoint.kind.Is endpoint.host) :
    ∀ c ∈ endpoint.authority endpoint.host, IsLinkChar c := by
  intro c hc
  rw [authority,List.mem_append,List.mem_cons] at hc
  obtain hc | rfl | hc := hc
  · exact bracketed_chars h c hc
  · exact .inr (by decide)
  · exact .inl (digits_plain _ c hc)

lemma userinfo_chars (h : endpoint.Valid env) : (∀ c ∈ endpoint.user, isPlain c = true) ∧
    ∀ c ∈ endpoint.password, isPlain c = true := by
  have hinfo := h.userinfo
  unfold user password
  cases hu : endpoint.userinfo with
  | none => exact ⟨fun c hc => absurd hc List.not_mem_nil,fun c hc => absurd hc List.not_mem_nil⟩
  | some u => exact hinfo u hu

lemma text_noSpace (h : endpoint.Valid env) : ∀ c ∈ endpoint.text, isWhitespace c = false := by
  have hproxy : ∀ scheme, ∀ c ∈ (endpoint.proxyLink scheme endpoint.host).text, IsLinkChar c := by
    intro scheme c hc
    unfold ProxyLink.text at hc
    simp only [List.mem_append,List.mem_cons] at hc
    obtain (((hc | hc) | hc) | hc) | rfl | hc := hc
    · exact .inl (ProxyLink.Plain.scheme _ c hc)
    · refine .inr ?_
      have hsep : c ∈ [':','/','/'] := hc
      simp only [List.mem_cons,List.not_mem_nil,or_false,or_self] at hsep
      obtain rfl | rfl := hsep <;> decide
    · split at hc
      · next user password hu =>
        obtain ⟨huser,hpassword⟩ := h.userinfo _ hu
        simp only [List.mem_append,List.mem_cons,List.not_mem_nil,or_false] at hc
        obtain (hc | rfl | hc) | rfl := hc
        · exact .inl (huser c hc)
        · exact .inr (by decide)
        · exact .inl (hpassword c hc)
        · exact .inr (by decide)
      · cases hc
    · exact bracketed_chars h.host c hc
    · exact .inr (by decide)
    · exact .inl (digits_plain _ c hc)
  have hss : ∀ c ∈ "ss://".toList, IsLinkChar c := by
    have hall : "ss://".toList.all (fun c => decide (c ∈ ['s',':','/'])) = true := by decide
    intro c hc
    have hmem := of_decide_eq_true (List.all_eq_true.mp hall c hc)
    simp only [List.mem_cons,List.not_mem_nil,or_false] at hmem
    obtain rfl | rfl | rfl := hmem
    · exact .inl (by decide)
    · exact .inr (by decide)
    · exact .inr (by decide)
  have hsigns : ∀ c, isPlain c = true ∨ c ∈ ['+','/','='] → IsLinkChar c := by
    rintro c (hplain | hsign)
    · exact .inl hplain
    · simp only [List.mem_cons,List.not_mem_nil,or_false] at hsign
      obtain rfl | rfl | rfl := hsign <;> exact .inr (by decide)
  intro c hc
  apply IsLinkChar.noSpace
  have hready := h.ready
  unfold Ready at hready
  unfold text at hc
  cases hscheme : endpoint.scheme with
  | http =>
    rw [hscheme] at hc
    exact hproxy _ c hc
  | https =>
    rw [hscheme] at hc
    exact hproxy _ c hc
  | socks5 =>
    rw [hscheme] at hc
    exact hproxy _ c hc
  | ss =>
    rw [hscheme] at hc
    simp only [ssText,List.mem_append,List.mem_cons] at hc
    obtain hc | (hc | rfl | hc) | rfl | hc := hc
    · exact hss c hc
    · exact .inl ((userinfo_chars h).1 c hc)
    · exact .inr (by decide)
    · exact .inl ((userinfo_chars h).2 c hc)
    · exact .inr (by decide)
    · exact authority_chars h.host c hc
  | ssUserinfo encoded =>
    rw [hscheme] at hc hready
    simp only [ssUserinfoText,List.mem_append,List.mem_cons] at hc
    obtain hc | hc | rfl | hc := hc
    · exact hss c hc
    · exact hsigns c (hready.1 c hc)
    · exact .inr (by decide)
    · exact authority_chars h.host c hc
  | ssEncoded encoded =>
    rw [hscheme] at hc hready
    obtain hc | hc := List.mem_append.mp hc
    · exact hss c hc
    · exact hsigns c (hready.1 c hc)

/-- For all hosts but IPv6 addresses the link is a plain one, and keeps its address. -/
lemma proxyLink_node (h : endpoint.Valid env) (hkind : endpoint.kind ≠ .ipv6) (scheme : ProxyScheme)
    (hscheme : scheme ∈ [.http,.https,.socks5]) (hhttp : scheme = .http → endpoint.port ≠ 80)
    (hhttps : scheme = .https → endpoint.user ≠ [])
    (hurl : env.parseUrl (endpoint.proxyLink scheme endpoint.host).text=
      some (endpoint.proxyLink scheme endpoint.host).url) : ∃ node,
    parseProxyUrl env (endpoint.proxyLink scheme endpoint.host).text = .ok (some node) ∧
      serverHost node=some endpoint.host := by
  have hhost : (endpoint.proxyLink scheme endpoint.host).host=endpoint.host := if_neg hkind
  have hplain : (endpoint.proxyLink scheme endpoint.host).Plain := by
    refine ⟨h.userinfo,?_,?_⟩
    · rw [hhost]
      exact h.host.plain hkind
    · rw [hhost]
      exact h.host.ne_nil
  have hport := hplain.hostPort
  have hparse := hplain.parse hurl
  rw [hhost] at hport
  simp only [List.mem_cons,List.not_mem_nil,or_false] at hscheme
  obtain rfl | rfl | rfl := hscheme
  · have hlooks := hplain.looksLikeHttp.mpr (fun heq => hhttp rfl (Option.some.inj heq).symm)
    exact ⟨_,hparse.trans (ProxyLink.parseHttpUrl_ok hlooks hport),rfl⟩
  · have hlooks := (hplain.looksLikeHttps rfl).mpr (hhttps rfl)
    obtain ⟨_,_,hok⟩ := ProxyLink.parseHttpsUrl_ok hlooks hport
    exact ⟨_,hparse.trans hok,rfl⟩
  · exact ⟨_,hparse,congrArg some hhost⟩

/-- What the URL crate gives as the host is the host of the node. -/
lemma parseProxyUrl_host {line host : Str} {url : Url} {node : ProxyNode} (hurl : env.parseUrl (trim line)=some url)
    (hhost : url.hostStr=some host) (hss : "ss://".toList.isPrefixOf (trim line) = false)
    (h : parseProxyUrl env line = .ok (some node)) : serverHost node=some host := by
  have hport : ∀ {port addr}, hostPortFromUrl url port = .ok addr → addr.host=host := by
    intro port addr haddr
    unfold hostPortFromUrl at haddr
    rw [hhost] at haddr
    dsimp only at haddr
    split at haddr
    · cases haddr
    · unfold HostPort.new at haddr
      split_ifs at haddr
      cases haddr
      rfl
  have hmade : ∀ {port} {make : HostPort → ProxyNode}, (∀ addr, serverHost (make addr)=some addr.host) →
      (hostPortFromUrl url port).map (fun addr => some (make addr)) = .ok (some node) →
      serverHost node=some host := by
    intro port make hmake h
    obtain ⟨addr,haddr,heq⟩ := map_eq_ok.mp h
    cases heq
    rw [hmake,hport haddr]
  unfold parseProxyUrl at h
  simp only [hss,hurl,Bool.false_eq_true,if_false] at h
  split_ifs at h
  · cases h
  · unfold parseHttpUrl at h
    split_ifs at h
    · cases h
    · exact hmade (fun _ => rfl) h
  · unfold parseHttpsUrl at h
    split_ifs at h
    · cases h
    · exact hmade (fun _ => rfl) h
  · exact hmade (fun _ => rfl) h
  · exact hmade (fun _ => rfl) h
  · cases h

/-- A Shadowsocks link has the host that the URL crate gives. -/
lemma ss_node (h : endpoint.SsAccepted env) {rest host username : Str} {password : Option Str}
    (hnoSpace : ∀ c ∈ "ss://".toList++rest, isWhitespace c = false)
    (hurl : env.parseUrl ("ss://".toList++rest)=some (endpoint.ssUrl username password host))
    (hcredentials : ssCredentialsFromUrl env (endpoint.ssUrl username password host) =
      .ok (env.percentDecode endpoint.user,env.percentDecode endpoint.password)) : ∃ node,
    parseProxyUrl env ("ss://".toList++rest) = .ok (some node) ∧
      serverHost node=some (endpoint.bracketed host) := by
  obtain ⟨server,hserver,hhost⟩ := shadowsocksServer_eq h (endpoint.bracketed host)
  obtain ⟨label,hparse⟩ := parseShadowsocksUrl_url hurl rfl rfl hcredentials
  rw [hserver] at hparse
  rw [parseProxyUrl_ss hnoSpace,hparse]
  exact ⟨_,rfl,congrArg some hhost⟩

lemma splitCredentials_eq (h : endpoint.Valid env) : splitCredentials env (endpoint.user++ ':'::endpoint.password)=
    some (env.percentDecode endpoint.user,env.percentDecode endpoint.password) := by
  have hcolon : ':' ∉ endpoint.user := plain_not_mem (userinfo_chars h).1 (by decide)
  rw [splitCredentials,splitOnce_append hcolon]
  rfl

/-- The host of both forms with an address that the URL crate reads. -/
lemma ss_read_node (h : endpoint.Valid env) (hscheme : endpoint.scheme = .ss ∨
    ∃ encoded, endpoint.scheme = .ssUserinfo encoded) : ∃ host node, (endpoint.kind ≠ .ipv6 → host=endpoint.host) ∧
      parseProxyUrl env endpoint.text = .ok (some node) ∧ serverHost node=some (endpoint.bracketed host) := by
  obtain ⟨host,-,hsame,hread⟩ := h.read
  have hready := h.ready
  have hnoSpace := text_noSpace h
  unfold Ready at hready
  unfold text at hread hnoSpace ⊢
  obtain hscheme | ⟨encoded,hscheme⟩ := hscheme
  · rw [hscheme] at hready hread hnoSpace ⊢
    obtain ⟨node,hnode,hhost⟩ := ss_node hready.2 hnoSpace hread rfl
    exact ⟨host,node,hsame,hnode,hhost⟩
  · rw [hscheme] at hready hread hnoSpace ⊢
    obtain ⟨username,hencoded,hurl,hdecoded⟩ := hread
    have hcredentials : ssCredentialsFromUrl env (endpoint.ssUrl username none host) =
        .ok (env.percentDecode endpoint.user,env.percentDecode endpoint.password) := by
      unfold ssCredentialsFromUrl
      simp only [ssUrl,decodeUrlComponent,hencoded,hdecoded,Option.getD_some,splitCredentials_eq h]
    obtain ⟨node,hnode,hhost⟩ := ss_node hready.2.2 hnoSpace hurl hcredentials
    exact ⟨host,node,hsame,hnode,hhost⟩

lemma at_notMem_authority (h : endpoint.kind.Is endpoint.host) : '@' ∉ endpoint.authority endpoint.host := by
  have hhost : '@' ∉ endpoint.host := h.not_mem (by decide) (by decide)
  have hport : '@' ∉ decimal endpoint.port.toNat := plain_not_mem (digits_plain _) (by decide)
  rw [authority,bracketed]
  split_ifs <;> simp [hhost,hport]

/-- The text inside the older form is taken apart where it was put together. -/
lemma parseSsLegacyAuthority_eq (h : endpoint.Valid env) : parseSsLegacyAuthority env
    (endpoint.user++ ':'::endpoint.password++ '@'::endpoint.authority endpoint.host) =
      .ok (env.percentDecode endpoint.user,env.percentDecode endpoint.password,endpoint.host,endpoint.port) := by
  unfold parseSsLegacyAuthority
  simp only [rsplitOnce_append (at_notMem_authority h.host),splitCredentials_eq h,splitHostPort_authority h.host]
  rfl

lemma ssEncoded_node (h : endpoint.Valid env) {encoded : Str} (haccepted : endpoint.SsAccepted env)
    (hchars : ∀ c ∈ encoded, isPlain c = true ∨ c ∈ ['+','/','='])
    (hnoSpace : ∀ c ∈ "ss://".toList++encoded, isWhitespace c = false)
    (hurl : ∀ url ∈ env.parseUrl ("ss://".toList++encoded), url.port=none)
    (hdecoded : decodeBase64Text env encoded=
      some (endpoint.user++ ':'::endpoint.password++ '@'::endpoint.authority endpoint.host)) : ∃ node,
    parseProxyUrl env ("ss://".toList++encoded) = .ok (some node) ∧ serverHost node=some endpoint.host := by
  obtain ⟨server,hserver,hhost⟩ := shadowsocksServer_eq haccepted endpoint.host
  have hmem : ∀ {d : Char}, isPlain d = false → d ∉ ['+','/','='] → d ∉ encoded := by
    intro d hplain hsign hd
    obtain hd | hd := hchars d hd
    · rw [hplain] at hd
      cases hd
    · exact hsign hd
  have hsigns : ∀ c ∈ encoded, c ∉ [':','#','?'] := by
    intro c hc hsign
    simp only [List.mem_cons,List.not_mem_nil,or_false] at hsign
    obtain rfl | rfl | rfl := hsign
    all_goals exact hmem (by decide) (by decide) hc
  obtain ⟨label,hparse⟩ := parseShadowsocksUrl_encoded hsigns hurl hdecoded (parseSsLegacyAuthority_eq h)
  rw [hserver] at hparse
  rw [parseProxyUrl_ss hnoSpace,hparse]
  exact ⟨_,rfl,congrArg some hhost⟩

/-! The two sides together -/

/-- The link and the Clash entry name the same host, and an address among them can be dialled. -/
def SameHost (endpoint : Endpoint) (env : LinkExternals) : Prop :=
  ∃ node node', parseProxyUrl env endpoint.text = .ok (some node) ∧
    (clashLoaded env.toExternals (.mapping (endpoint.mapping env))).native=[node'] ∧
    serverHost node=serverHost node' ∧
    (endpoint.kind ≠ .name → ∃ host ip, serverHost node=some host ∧ parseIpAddr host=some ip)

lemma link_plain (h : endpoint.Valid env) (hkind : endpoint.kind ≠ .ipv6)
    (hnot : ∀ encoded, endpoint.scheme ≠ .ssEncoded encoded) : ∃ node,
      parseProxyUrl env endpoint.text = .ok (some node) ∧ serverHost node=some endpoint.host := by
  have hss : (endpoint.scheme = .ss ∨ ∃ encoded, endpoint.scheme = .ssUserinfo encoded) → ∃ node,
      parseProxyUrl env endpoint.text = .ok (some node) ∧ serverHost node=some endpoint.host := by
    intro hform
    obtain ⟨host,node,hsame,hnode,hhost⟩ := ss_read_node h hform
    exact ⟨node,hnode,by rw [hhost,bracketed,if_neg hkind,hsame hkind]⟩
  obtain ⟨host,-,hsame,hread⟩ := h.read
  obtain rfl := hsame hkind
  have hready := h.ready
  unfold Ready at hready
  cases hscheme : endpoint.scheme with
  | http =>
    rw [text,hscheme] at hread ⊢
    rw [hscheme] at hready
    exact proxyLink_node h hkind .http (by decide) (fun _ => hready) ProxyScheme.noConfusion hread
  | https =>
    rw [text,hscheme] at hread ⊢
    rw [hscheme] at hready
    exact proxyLink_node h hkind .https (by decide) ProxyScheme.noConfusion (fun _ => hready) hread
  | socks5 =>
    rw [text,hscheme] at hread ⊢
    exact proxyLink_node h hkind .socks5 (by decide) ProxyScheme.noConfusion ProxyScheme.noConfusion hread
  | ss => exact hss (.inl hscheme)
  | ssUserinfo encoded => exact hss (.inr ⟨encoded,hscheme⟩)
  | ssEncoded encoded => exact absurd hscheme (hnot encoded)

/-- The brackets of an IPv6 address stay on, but for the older form of a Shadowsocks link. -/
lemma link_bracketed (h : endpoint.Valid env) (hscheme : ∀ encoded, endpoint.scheme ≠ .ssEncoded encoded)
    {node : ProxyNode} (hnode : parseProxyUrl env endpoint.text = .ok (some node)) :
    ∃ host, serverHost node=some (endpoint.bracketed host) := by
  have hss : (endpoint.scheme = .ss ∨ ∃ encoded, endpoint.scheme = .ssUserinfo encoded) →
      ∃ host, serverHost node=some (endpoint.bracketed host) := by
    intro hform
    obtain ⟨host,node',-,hnode',hhost⟩ := ss_read_node h hform
    rw [hnode'] at hnode
    cases hnode
    exact ⟨host,hhost⟩
  obtain ⟨host,-,-,hread⟩ := h.read
  have htrim := trim_eq_self (text_noSpace h)
  have hlink : ∀ scheme, endpoint.text=(endpoint.proxyLink scheme endpoint.host).text →
      env.parseUrl endpoint.text=some (endpoint.proxyLink scheme host).url →
        ∃ host, serverHost node=some (endpoint.bracketed host) := by
    intro scheme htext hurl
    obtain ⟨_,_,-,-,hss⟩ := ProxyLink.text_head (endpoint.proxyLink scheme endpoint.host)
    rw [← htext] at hss
    exact ⟨host,parseProxyUrl_host (htrim.symm ▸ hurl) rfl (htrim.symm ▸ hss) hnode⟩
  cases hs : endpoint.scheme with
  | http =>
    rw [hs] at hread
    exact hlink .http (by rw [text,hs]) hread
  | https =>
    rw [hs] at hread
    exact hlink .https (by rw [text,hs]) hread
  | socks5 =>
    rw [hs] at hread
    exact hlink .socks5 (by rw [text,hs]) hread
  | ss => exact hss (.inl hs)
  | ssUserinfo encoded => exact hss (.inr ⟨encoded,hs⟩)
  | ssEncoded encoded => exact absurd hs (hscheme encoded)

lemma link_encoded (h : endpoint.Valid env) {encoded : Str} (hscheme : endpoint.scheme = .ssEncoded encoded) : ∃ node,
    parseProxyUrl env endpoint.text = .ok (some node) ∧ serverHost node=some endpoint.host := by
  obtain ⟨_,-,-,hread⟩ := h.read
  have hready := h.ready
  have hnoSpace := text_noSpace h
  unfold Ready at hready
  unfold text at hread hnoSpace ⊢
  rw [hscheme] at hready hread hnoSpace ⊢
  exact ssEncoded_node h hready.2.2 hready.1 hnoSpace hread.1 hread.2

/-- Both spellings name the same host, but for an IPv6 address in a link that the URL crate reads. -/
theorem same_host_iff (h : endpoint.Valid env) : endpoint.SameHost env ↔
    (endpoint.kind = .ipv6 → ∃ encoded, endpoint.scheme = .ssEncoded encoded) := by
  obtain ⟨node',hclash,hhost'⟩ := clash_node h
  constructor
  · rintro ⟨node,_,hlink,hclash',hsame,-⟩ hkind
    obtain rfl := List.singleton_inj.mp (hclash.symm.trans hclash')
    by_contra hnot
    obtain ⟨host,hhost⟩ := link_bracketed h (fun encoded heq => hnot ⟨encoded,heq⟩) hlink
    rw [hhost,hhost'] at hsame
    exact bracketed_ne h.host hkind host (Option.some.inj hsame)
  · intro hform
    have hlink : ∃ node, parseProxyUrl env endpoint.text = .ok (some node) ∧
        serverHost node=some endpoint.host := by
      by_cases holder : ∃ encoded, endpoint.scheme = .ssEncoded encoded
      · obtain ⟨encoded,hscheme⟩ := holder
        exact link_encoded h hscheme
      · exact link_plain h (fun hkind => holder (hform hkind)) (not_exists.mp holder)
    obtain ⟨node,hnode,hhost⟩ := hlink
    refine ⟨node,node',hnode,hclash,hhost.trans hhost'.symm,fun hname => ?_⟩
    have hhostIs := h.host
    cases hkind : endpoint.kind with
    | ipv4 =>
      rw [hkind] at hhostIs
      exact ⟨_,_,hhost,hhostIs.choose_spec⟩
    | ipv6 =>
      rw [hkind] at hhostIs
      exact ⟨_,_,hhost,hhostIs.choose_spec⟩
    | name => exact absurd hkind hname

end Endpoint

/-! `socks5://[::1]:1080`, and the same server in a Clash document -/

def loopbackEndpoint : Endpoint := ⟨.socks5,.ipv6,"::1".toList,1080,none⟩

/-- A URL parser that knows this link. -/
def loopbackExternals : LinkExternals := {sampleLinkExternals with
  parseUrl := fun text => if text=loopbackEndpoint.text then
    some (loopbackEndpoint.proxyLink .socks5 loopbackEndpoint.host).url else none}

lemma loopback_valid : loopbackEndpoint.Valid loopbackExternals := by
  refine ⟨⟨⟨[0,0,0,0,0,0,0,1],rfl⟩,by decide⟩,?_,trivial,loopbackEndpoint.host,rfl,fun h => absurd rfl h,rfl⟩
  rintro u ⟨⟩

theorem same_host_loopback : loopbackEndpoint.SameHost loopbackExternals ↔
    (loopbackEndpoint.kind = .ipv6 → ∃ encoded, loopbackEndpoint.scheme = .ssEncoded encoded) :=
  Endpoint.same_host_iff loopback_valid

theorem link_keeps_brackets :
    loopbackEndpoint.text="socks5://[::1]:1080".toList ∧
      parseProxyUrl loopbackExternals loopbackEndpoint.text =
        .ok (some (.socks5 ⟨"[::1]".toList,1080⟩ none false)) ∧
      (clashLoaded loopbackExternals.toExternals (.mapping (loopbackEndpoint.mapping loopbackExternals))).native=
        [.socks5 ⟨"::1".toList,1080⟩ none true] ∧
      parseIpAddr "[::1]".toList=none ∧ ¬loopbackEndpoint.SameHost loopbackExternals := by
  have hlink : parseProxyUrl loopbackExternals loopbackEndpoint.text =
      .ok (some (.socks5 ⟨"[::1]".toList,1080⟩ none false)) := rfl
  refine ⟨by decide,hlink,rfl,by decide,?_⟩
  rintro ⟨node,node',hnode,-,-,hdial⟩
  rw [hlink] at hnode
  cases hnode
  obtain ⟨host,ip,hhost,hip⟩ := hdial (by decide)
  obtain rfl := Option.some.inj hhost
  cases hip

end RotatorProxy.Mihomo
