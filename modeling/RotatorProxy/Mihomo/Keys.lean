import RotatorProxy.Library.Shifts
import RotatorProxy.Link.Native
import RotatorProxy.Mihomo.Settings
import RotatorProxy.Outbound.Socks4
import RotatorProxy.Proxy.Admission

/-! What the key of a node tells about it. Two nodes with one key are one node to the pool, so the key has to
tell how a node dials; it is put together from texts that may themselves contain its separators. -/
namespace RotatorProxy.Mihomo
open Text Proxy Library Outbound Link

/-! What a node dials with -/

/-- `user:password`, as HTTP sends it -/
def userInfo (auth : Option Credentials) : Option Str :=
  auth.map (fun auth => auth.username++ ':'::auth.password.getD [])

/-- Both apart, as SOCKS5 sends them. -/
def userAndPassword (auth : Option Credentials) : Option (Str × Str) :=
  auth.map (fun auth => (auth.username,auth.password.getD []))

def adapterOf (env : MeowExternals) (source : MihomoProxyConfig) : Option MeowAdapter :=
  match buildMeowNode env source with
  | .ok (_,adapter) => some adapter
  | .error _ => none

/-- The data of `connect_proxy_node` that a node brings along. -/
inductive Dial
  | http (addr : HostPort) (user : Option Str)
  | https (addr : HostPort) (user : Option Str) (serverName : Str) (skipCertVerify : Bool)
  | socks5 (addr : HostPort) (user : Option (Str × Str)) (remoteDns : Bool)
  | socks4 (addr : HostPort) (user : Str) (remoteDns : Bool)
  | shadowsocks (server : ServerConfig)
  | meow (adapter : Option MeowAdapter)
  deriving DecidableEq

def dial (env : MeowExternals) : ProxyNode → Dial
  | .http addr auth => .http addr (userInfo auth)
  | .https addr auth sni skipCertVerify => .https addr (userInfo auth) (sni.getD addr.host) skipCertVerify
  | .socks5 addr auth remoteDns => .socks5 addr (userAndPassword auth) remoteDns
  | .socks4 addr auth remoteDns => .socks4 addr (socks4User auth) remoteDns
  | .shadowsocks server _ => .shadowsocks server
  | .localMihomo addr _ _ => .http addr none
  | .meow node => .meow ((adapterOf env node.source).map MeowAdapter.tcp)

/-- The nodes of the parsers and of `build_meow_node`. -/
inductive Produced (env : MeowExternals) : ProxyNode → Prop
  | http (addr : HostPort) (auth : Option Credentials) : Produced env (.http addr auth)
  | https (addr : HostPort) (auth : Option Credentials) (sni : Option Str) (skipCertVerify : Bool) :
    Produced env (.https addr auth sni skipCertVerify)
  | socks5 (addr : HostPort) (auth : Option Credentials) (remoteDns : Bool) :
    Produced env (.socks5 addr auth remoteDns)
  | socks4 (addr : HostPort) (auth : Option Credentials) (remoteDns : Bool) :
    Produced env (.socks4 addr auth remoteDns)
  | shadowsocks (server : ServerConfig) (label : Str) : Produced env (.shadowsocks server label)
  | meow {source : MihomoProxyConfig} {node : MeowProxyNode} {adapter : MeowAdapter}
    (h : buildMeowNode env source = .ok (node,adapter)) : Produced env (.meow node)

/-- Every node that a link stands for by itself is among them. -/
theorem parseProxyUrl_produced {env : LinkExternals} {meowEnv : MeowExternals} {line : Str} {node : ProxyNode}
    (h : parseProxyUrl env line = .ok (some node)) : Produced meowEnv node := by
  unfold parseProxyUrl at h
  dsimp only at h
  split_ifs at h with hempty hss
  · cases h
  · obtain ⟨⟨server,label⟩,_,heq⟩ := map_eq_ok.mp h
    cases heq
    exact .shadowsocks server label
  · cases hurl : env.parseUrl (trim line) with
    | none =>
      rw [hurl] at h
      cases h
    | some url =>
      rw [hurl] at h
      dsimp only at h
      split_ifs at h with hhttp hhttps hsocks5 hsocks4
      · unfold parseHttpUrl at h
        split_ifs at h
        · cases h
        · obtain ⟨addr,_,heq⟩ := map_eq_ok.mp h
          cases heq
          exact .http addr _
      · unfold parseHttpsUrl at h
        split_ifs at h
        · cases h
        · obtain ⟨addr,_,heq⟩ := map_eq_ok.mp h
          cases heq
          exact .https addr _ _ _
      · obtain ⟨addr,_,heq⟩ := map_eq_ok.mp h
        cases heq
        exact .socks5 addr _ _
      · obtain ⟨addr,_,heq⟩ := map_eq_ok.mp h
        cases heq
        exact .socks4 addr _ _
      · cases h

/-- What an HTTP proxy is sent is what `dial` has of the user. -/
theorem connectRequest_congr {auth auth' : Option Credentials} (h : userInfo auth=userInfo auth')
    (target : TargetAddr) : connectRequest auth target=connectRequest auth' target := by
  have hlines : proxyAuthorization auth=proxyAuthorization auth' := by
    cases auth with
    | none =>
      cases auth' with
      | none => rfl
      | some auth' => cases h
    | some auth =>
      cases auth' with
      | none => cases h
      | some auth' =>
        exact congrArg (fun user => "Proxy-Authorization: Basic ".toList++base64Encode (utf8 user)++
          "\r\n".toList) (Option.some.inj h)
  unfold connectRequest
  rw [hlines]

/-! When fields can be taken for each other -/

/-- The users, or none, in front of their rests. -/
def UserClash : Option Str → Str → Option Str → Str → Prop
  | none,_,none,_ => False
  | some user,rest,none,rest' => rest'=user++ '@'::rest
  | none,rest,some user',rest' => rest=user'++ '@'::rest'
  | some user,rest,some user',rest' => Shifted user ('@'::rest) user' ('@'::rest')

/-- A colon in a user name, or in a password. -/
def PasswordClash : Option Credentials → Option Credentials → Prop
  | some auth,some auth' =>
    Shifted auth.username (':'::auth.password.getD []) auth'.username (':'::auth'.password.getD [])
  | _,_ => False

def IsIpv6Literal (host : Str) : Prop := ':' ∈ host ∧ (parseIpAddr host).isSome

instance (host : Str) : Decidable (IsIpv6Literal host) := inferInstanceAs (Decidable (_ ∧ _))

/-- The host of one is the IPv6 literal that is the host of the other, in brackets. -/
def InBrackets (a b : HostPort) : Prop :=
  a.port=b.port ∧ IsIpv6Literal a.host ∧ ¬IsIpv6Literal b.host ∧ b.host= '['::a.host++[']']

def BracketClash (a b : HostPort) : Prop := InBrackets a b ∨ InBrackets b a

section
variable {a b : HostPort} {auth auth' : Option Credentials} {u u' : Option Str} {r r' : Str}

lemma UserClash.rest_ne (h : UserClash u r u' r') : r ≠ r' := by
  have hlen : ∀ s t : Str, t.length < (s++ '@'::t).length := by
    intro s t
    simp only [List.length_append,List.length_cons]
    omega
  rintro rfl
  cases u with
  | none =>
    cases u' with
    | none => exact h
    | some user' => exact absurd (congrArg List.length h) (Nat.ne_of_lt (hlen user' r))
  | some user =>
    cases u' with
    | none => exact absurd (congrArg List.length h) (Nat.ne_of_lt (hlen user r))
    | some user' => exact Shifted.rest_ne h rfl

lemma UserClash.user_ne (h : UserClash u r u' r') : u ≠ u' := by
  rintro rfl
  cases u with
  | none => exact h
  | some user => exact Shifted.field_ne h rfl

lemma PasswordClash.user_ne (h : PasswordClash auth auth') : socks4User auth ≠ socks4User auth' := by
  cases auth with
  | none => exact h.elim
  | some auth =>
    cases auth' with
    | none => exact h.elim
    | some auth' => exact Shifted.field_ne h

theorem userInfo_eq_iff :
    userInfo auth=userInfo auth' ↔ userAndPassword auth=userAndPassword auth' ∨ PasswordClash auth auth' := by
  cases auth with
  | none => cases auth' <;> simp [userInfo,userAndPassword,PasswordClash]
  | some auth =>
    cases auth' with
    | none => simp [userInfo,userAndPassword,PasswordClash]
    | some auth' =>
      simp only [userInfo,userAndPassword,Option.map_some,Option.some.injEq,append_eq_iff_shifted,
        List.cons.injEq,true_and,Prod.mk.injEq]
      rfl

theorem authKey_append_eq_iff : authKey auth++r=authKey auth'++r' ↔
    (userInfo auth=userInfo auth' ∧ r=r') ∨ UserClash (userInfo auth) r (userInfo auth') r' := by
  cases auth with
  | none =>
    cases auth' with
    | none => simp [authKey,userInfo,UserClash]
    | some auth' => simp [authKey,userInfo,UserClash]
  | some auth =>
    cases auth' with
    | none => simp [authKey,userInfo,UserClash,eq_comm]
    | some auth' =>
      have happend : ∀ user rest : Str, user++['@']++rest=user++ '@'::rest := fun user rest => by simp
      simp only [authKey,userInfo,Option.map_some,Option.some.injEq,UserClash]
      rw [happend,happend,append_eq_iff_shifted,List.cons.injEq,eq_self,true_and]

/-- The host as an address shows it. -/
def shownHost (host : Str) : Str := if IsIpv6Literal host then '['::host++[']'] else host

lemma display_eq (addr : HostPort) : addr.display=shownHost addr.host++ ':'::decimal addr.port.toNat := by
  change (if IsIpv6Literal addr.host then _ else _)=_
  unfold shownHost
  split_ifs
  · simp
  · rfl

lemma shownHost_eq_iff {host host' : Str} : shownHost host=shownHost host' ↔ host=host' ∨
    (IsIpv6Literal host ∧ ¬IsIpv6Literal host' ∧ host'= '['::host++[']']) ∨
      (IsIpv6Literal host' ∧ ¬IsIpv6Literal host ∧ host= '['::host'++[']']) := by
  unfold shownHost
  by_cases h : IsIpv6Literal host
  · by_cases h' : IsIpv6Literal host'
    · simp [h,h']
    · have hne : host ≠ host' := fun heq => h' (heq ▸ h)
      simp [h,h',hne,eq_comm]
  · by_cases h' : IsIpv6Literal host'
    · have hne : host ≠ host' := fun heq => h (heq ▸ h')
      simp [h,h',hne]
    · simp [h,h']

theorem display_eq_iff : a.display=b.display ↔ a=b ∨ BracketClash a b := by
  rw [display_eq,display_eq,append_sep_eq_iff_of_rest (notMem_decimal (by decide) _)
    (notMem_decimal (by decide) _),shownHost_eq_iff]
  obtain ⟨host,port⟩ := a
  obtain ⟨host',port'⟩ := b
  have hport : decimal port.toNat=decimal port'.toNat ↔ port=port' := decimal_toNat_injective.eq_iff
  simp only [hport,BracketClash,InBrackets,HostPort.mk.injEq,eq_comm (a := port')]
  tauto

lemma BracketClash.ne (h : BracketClash a b) : a ≠ b := by
  rintro rfl
  exact h.elim (fun h => h.2.2.1 h.2.1) (fun h => h.2.2.1 h.2.1)

/-! One kind at a time -/

/-- What stands between the users and the last field of an HTTPS key. -/
def httpsRest (addr : HostPort) (sni : Option Str) : Str := addr.display++("?sni=".toList++sni.getD [])

/-- An empty server name is kept apart from none when the TLS connection is made, but not in the key. -/
def ServerNameClash (host : Str) (sni sni' : Option Str) : Prop := host ≠ [] ∧ sni.getD []=sni'.getD [] ∧ sni ≠ sni'

def HttpApart (a : HostPort) (auth : Option Credentials) (b : HostPort) (auth' : Option Credentials) : Prop :=
  ¬UserClash (userInfo auth) a.display (userInfo auth') b.display ∧
    (userInfo auth=userInfo auth' → ¬BracketClash a b)

def SocksApart (a : HostPort) (auth : Option Credentials) (b : HostPort) (auth' : Option Credentials) : Prop :=
  HttpApart a auth b auth' ∧ (a.display=b.display → ¬PasswordClash auth auth')

def HttpsApart (a : HostPort) (auth : Option Credentials) (sni : Option Str) (b : HostPort)
    (auth' : Option Credentials) (sni' : Option Str) : Prop :=
  ¬UserClash (userInfo auth) (httpsRest a sni) (userInfo auth') (httpsRest b sni') ∧
    (userInfo auth=userInfo auth' →
      ¬Shifted a.display ("?sni=".toList++sni.getD []) b.display ("?sni=".toList++sni'.getD []) ∧
        (sni.getD []=sni'.getD [] → ¬BracketClash a b) ∧ (a=b → ¬ServerNameClash a.host sni sni'))

def ShadowsocksApart (server server' : ServerConfig) : Prop :=
  server.port=server'.port →
    ¬Shifted server.method.name ('@'::server.host) server'.method.name ('@'::server'.host) ∧
      (server.method=server'.method → server.host=server'.host →
        server.password=server'.password ∧ server.identityKeys=server'.identityKeys)

/-- The texts of the key are the same, although perhaps not the fields. -/
def MeowClash (source source' : MihomoProxyConfig) : Prop :=
  let name := sourceName source
  let name' := sourceName source'
  let server := entryServer (entryOf source)
  let server' := entryServer (entryOf source')
  entryPort (protocolOf source) (entryOf source)=entryPort (protocolOf source') (entryOf source') ∧
    (Shifted source.kind (':'::(name++ '@'::server)) source'.kind (':'::(name'++ '@'::server')) ∨
      source.kind=source'.kind ∧ (Shifted name ('@'::server) name' ('@'::server') ∨ name=name' ∧ server=server'))

def MeowApart (env : MeowExternals) (source source' : MihomoProxyConfig) : Prop :=
  MeowClash source source' → SameSettings env source source'

end

variable {env : MeowExternals} {a b : HostPort} {auth auth' : Option Credentials}

/-- The keys that end in the address. -/
lemma key_eq_iff (scheme : Str) : scheme++authKey auth++a.display=scheme++authKey auth'++b.display ↔
    userInfo auth=userInfo auth' ∧ a.display=b.display ∨
      UserClash (userInfo auth) a.display (userInfo auth') b.display := by
  rw [List.append_assoc,List.append_assoc]
  exact (List.append_right_inj scheme).trans authKey_append_eq_iff

theorem http_tells : ((ProxyNode.http a auth).key=(ProxyNode.http b auth').key →
    dial env (.http a auth)=dial env (.http b auth')) ↔ HttpApart a auth b auth' := by
  have hne : UserClash (userInfo auth) a.display (userInfo auth') b.display → a ≠ b :=
    fun h heq => h.rest_ne (congrArg HostPort.display heq)
  have hbrackets : BracketClash a b → a ≠ b := BracketClash.ne
  change ("http://".toList++authKey auth++a.display="http://".toList++authKey auth'++b.display → _) ↔ _
  rw [key_eq_iff,display_eq_iff,HttpApart]
  simp only [dial,Dial.http.injEq]
  tauto

/-- Both SOCKS protocols, whatever they send of the user. -/
lemma socks_tells {β : Type} {user : Option Credentials → β}
    (heq : userAndPassword auth=userAndPassword auth' → user auth=user auth')
    (hne : PasswordClash auth auth' → user auth ≠ user auth') (scheme : Str) :
    (scheme++authKey auth++a.display=scheme++authKey auth'++b.display → a=b ∧ user auth=user auth') ↔
      SocksApart a auth b auth' := by
  rw [key_eq_iff,SocksApart,HttpApart,display_eq_iff,userInfo_eq_iff]
  have haddr : UserClash (userInfo auth) a.display (userInfo auth') b.display → a ≠ b :=
    fun h heq => h.rest_ne (congrArg HostPort.display heq)
  constructor
  · intro h
    refine ⟨⟨fun hclash => haddr hclash (h (.inr hclash)).1,?_⟩,?_⟩
    · intro huser hbrackets
      exact hbrackets.ne (h (.inl ⟨huser,.inr hbrackets⟩)).1
    · intro hdisplay hpassword
      exact hne hpassword (h (.inl ⟨.inr hpassword,hdisplay⟩)).2
  · rintro ⟨⟨hclash,hbrackets⟩,hpassword⟩ (⟨huser,hdisplay⟩ | huser)
    · exact ⟨hdisplay.resolve_right (hbrackets huser),heq (huser.resolve_right (hpassword hdisplay))⟩
    · exact absurd huser hclash

theorem socks5_tells (remoteDns : Bool) :
    ((ProxyNode.socks5 a auth remoteDns).key=(ProxyNode.socks5 b auth' remoteDns).key →
      dial env (.socks5 a auth remoteDns)=dial env (.socks5 b auth' remoteDns)) ↔
        SocksApart a auth b auth' := by
  have hne : PasswordClash auth auth' → userAndPassword auth ≠ userAndPassword auth' := by
    intro h heq
    apply h.user_ne
    cases auth with
    | none => exact h.elim
    | some x =>
      cases auth' with
      | none => exact h.elim
      | some y => exact congrArg Prod.fst (Option.some.inj heq)
  simp only [dial,Dial.socks5.injEq,and_true]
  exact socks_tells id hne _

theorem socks4_tells (remoteDns : Bool) :
    ((ProxyNode.socks4 a auth remoteDns).key=(ProxyNode.socks4 b auth' remoteDns).key →
      dial env (.socks4 a auth remoteDns)=dial env (.socks4 b auth' remoteDns)) ↔
        SocksApart a auth b auth' := by
  have hcongr : userAndPassword auth=userAndPassword auth' → socks4User auth=socks4User auth' := by
    intro heq
    cases auth <;> cases auth' <;> simp_all [userAndPassword,socks4User]
  simp only [dial,Dial.socks4.injEq,and_true]
  exact socks_tells hcongr PasswordClash.user_ne _

/-- What follows the server name is told from it by its end. -/
lemma https_key_eq_iff {sni sni' : Option Str} {skip skip' : Bool} :
    (ProxyNode.https a auth sni skip).key=(ProxyNode.https b auth' sni' skip').key ↔
      skip=skip' ∧ authKey auth++httpsRest a sni=authKey auth'++httpsRest b sni' := by
  have hbool : ∀ skip, '=' ∉ boolText skip := by decide
  have hinj : ∀ skip skip', boolText skip=boolText skip' ↔ skip=skip' := by decide
  have hkey : ∀ (addr : HostPort) (auth : Option Credentials) (sni : Option Str) (skip : Bool),
      (ProxyNode.https addr auth sni skip).key = ("https://".toList++(authKey auth++httpsRest addr sni)++
        "&skip-cert-verify".toList)++ '='::boolText skip := by
    intro addr auth sni skip
    change "https://".toList++authKey auth++addr.display++"?sni=".toList++sni.getD []++
      ("&skip-cert-verify".toList++['='])++boolText skip=_
    simp only [httpsRest,List.append_assoc,List.cons_append,List.nil_append]
  rw [hkey,hkey,append_sep_eq_iff_of_rest (hbool skip) (hbool skip'),hinj,and_comm]
  refine and_congr_right fun _ => ?_
  exact (List.append_left_inj _).trans (List.append_right_inj _)

lemma serverName_eq_iff {host : Str} {sni sni' : Option Str} (h : sni.getD []=sni'.getD []) :
    sni.getD host=sni'.getD host ↔ ¬ServerNameClash host sni sni' := by
  unfold ServerNameClash
  cases sni with
  | none => cases sni' <;> simp_all [eq_comm]
  | some name => cases sni' <;> simp_all [eq_comm]

theorem https_tells {sni sni' : Option Str} {skip skip' : Bool} :
    ((ProxyNode.https a auth sni skip).key=(ProxyNode.https b auth' sni' skip').key →
      dial env (.https a auth sni skip)=dial env (.https b auth' sni' skip')) ↔
        (skip=skip' → HttpsApart a auth sni b auth' sni') := by
  have hrest : httpsRest a sni=httpsRest b sni' ↔ a.display=b.display ∧ sni.getD []=sni'.getD [] ∨
      Shifted a.display ("?sni=".toList++sni.getD []) b.display ("?sni=".toList++sni'.getD []) := by
    rw [httpsRest,httpsRest,append_eq_iff_shifted,List.append_right_inj]
  rw [https_key_eq_iff,authKey_append_eq_iff]
  simp only [dial,Dial.https.injEq]
  constructor
  · intro h hskip
    refine ⟨fun hclash => hclash.user_ne (h ⟨hskip,.inr hclash⟩).2.1,fun huser => ⟨?_,?_,?_⟩⟩
    · intro hshift
      have haddr := (h ⟨hskip,.inl ⟨huser,hrest.mpr (.inr hshift)⟩⟩).1
      exact hshift.field_ne (congrArg HostPort.display haddr)
    · intro hname hbrackets
      have hdisplay := display_eq_iff.mpr (.inr hbrackets)
      exact hbrackets.ne (h ⟨hskip,.inl ⟨huser,hrest.mpr (.inl ⟨hdisplay,hname⟩)⟩⟩).1
    · rintro rfl hclash
      have hserver := (h ⟨hskip,.inl ⟨huser,hrest.mpr (.inl ⟨rfl,hclash.2.1⟩)⟩⟩).2.2.1
      exact (serverName_eq_iff hclash.2.1).mp hserver hclash
  · rintro h ⟨hskip,⟨huser,heq⟩ | hclash⟩
    · obtain ⟨hshift,hbrackets,hserver⟩ := (h hskip).2 huser
      obtain ⟨hdisplay,hname⟩ := (hrest.mp heq).resolve_right hshift
      obtain rfl := (display_eq_iff.mp hdisplay).resolve_right (hbrackets hname)
      exact ⟨rfl,huser,(serverName_eq_iff hname).mpr (hserver rfl),hskip⟩
    · exact absurd hclash (h hskip).1

/-- The keys that end in a port: it has no colon, so the last one in the key is in front of it. -/
lemma port_key_eq_iff {s t : Str} {port port' : UInt16} (scheme : Str) :
    scheme++s++ ':'::decimal port.toNat=scheme++t++ ':'::decimal port'.toNat ↔ port=port' ∧ s=t := by
  rw [append_sep_eq_iff_of_rest (notMem_decimal (by decide) _) (notMem_decimal (by decide) _),and_comm]
  exact and_congr decimal_toNat_injective.eq_iff (List.append_right_inj scheme)

theorem shadowsocks_tells {server server' : ServerConfig} {label label' : Str} :
    ((ProxyNode.shadowsocks server label).key=(ProxyNode.shadowsocks server' label').key →
      dial env (.shadowsocks server label)=dial env (.shadowsocks server' label')) ↔
        ShadowsocksApart server server' := by
  have hkey : ∀ (server : ServerConfig) (label : Str), (ProxyNode.shadowsocks server label).key=
      "ss://".toList++(server.method.name++ '@'::server.host)++ ':'::decimal server.port.toNat := by
    intro server label
    change "ss://".toList++server.method.name++ '@'::(server.host++ ':'::decimal server.port.toNat)=_
    simp only [List.append_assoc,List.cons_append]
  obtain ⟨host,port,password,⟨method⟩,keys⟩ := server
  obtain ⟨host',port',password',⟨method'⟩,keys'⟩ := server'
  rw [hkey,hkey,port_key_eq_iff,append_eq_iff_shifted,List.cons.injEq]
  simp only [dial,Dial.shadowsocks.injEq,ServerConfig.mk.injEq,CipherKind.mk.injEq,ShadowsocksApart]
  have hne : Shifted method ('@'::host) method' ('@'::host') → method ≠ method' := Shifted.field_ne
  tauto

theorem meow_tells {source source' : MihomoProxyConfig} {node node' : MeowProxyNode}
    {adapter adapter' : MeowAdapter} (h : buildMeowNode env source = .ok (node,adapter))
    (h' : buildMeowNode env source' = .ok (node',adapter')) :
    ((ProxyNode.meow node).key=(ProxyNode.meow node').key →
      dial env (.meow node)=dial env (.meow node')) ↔ MeowApart env source source' := by
  have hkey : ∀ (source : MihomoProxyConfig) (name server : Str) (port : UInt16),
      (meowNode source name server port).key=
        "meow://".toList++(source.kind++ ':'::(name++ '@'::server))++ ':'::decimal port.toNat := by
    intro source name server port
    change "meow://".toList++source.kind++ ':'::name++ '@'::server++ ':'::decimal port.toNat=_
    simp only [List.append_assoc,List.cons_append]
  have hadapter : ∀ {source node adapter}, buildMeowNode env source = .ok (node,adapter) →
      adapterOf env source=some adapter := by
    intro source node adapter h
    rw [adapterOf,h]
  have hserver := buildAs_ofEntry (buildMeowNode_as h)
  have hserver' := buildAs_ofEntry (buildMeowNode_as h')
  rw [MeowApart,← tcp_eq_iff h h']
  obtain rfl := buildMeowNode_eq h
  obtain rfl := buildMeowNode_eq h'
  change ((meowNode _ _ _ _).key=(meowNode _ _ _ _).key →
    Dial.meow ((adapterOf env source).map _)=.meow ((adapterOf env source').map _)) ↔ _
  rw [hkey,hkey,port_key_eq_iff,append_eq_iff_shifted,List.cons.injEq,append_eq_iff_shifted,List.cons.injEq]
  simp only [MeowClash,hadapter h,hadapter h',hserver.server,hserver.port,hserver'.server,hserver'.port,
    Dial.meow.injEq,Option.map_some,Option.some.injEq,true_and]
  tauto

/-! All kinds -/

inductive NodeKind
  | http
  | https
  | socks5 (remoteDns : Bool)
  | socks4 (remoteDns : Bool)
  | shadowsocks
  | localMihomo
  | meow
  deriving DecidableEq, Fintype

def NodeKind.scheme : NodeKind → Str
  | http => "http".toList
  | https => "https".toList
  | socks5 remoteDns => (if remoteDns then "socks5h" else "socks5").toList
  | socks4 remoteDns => (if remoteDns then "socks4a" else "socks4").toList
  | shadowsocks => "ss".toList
  | localMihomo => "mihomo".toList
  | meow => "meow".toList

def kindOf : ProxyNode → NodeKind
  | .http .. => .http
  | .https .. => .https
  | .socks5 _ _ remoteDns => .socks5 remoteDns
  | .socks4 _ _ remoteDns => .socks4 remoteDns
  | .shadowsocks .. => .shadowsocks
  | .localMihomo .. => .localMihomo
  | .meow _ => .meow

/-- Of two nodes of one kind, that no field of one goes on over the separator behind it as the other is
written, and that what the key leaves out is the same. -/
def KeysApart (env : MeowExternals) : ProxyNode → ProxyNode → Prop
  | .http a auth,.http b auth' => HttpApart a auth b auth'
  | .https a auth sni skip,.https b auth' sni' skip' => skip=skip' → HttpsApart a auth sni b auth' sni'
  | .socks5 a auth remoteDns,.socks5 b auth' remoteDns' => remoteDns=remoteDns' → SocksApart a auth b auth'
  | .socks4 a auth remoteDns,.socks4 b auth' remoteDns' => remoteDns=remoteDns' → SocksApart a auth b auth'
  | .shadowsocks server _,.shadowsocks server' _ => ShadowsocksApart server server'
  | .meow node,.meow node' => MeowApart env node.source node'.source
  | _,_ => True

section
variable {a b : ProxyNode}

lemma Produced.key_scheme (h : Produced env a) : ∃ rest, a.key=(kindOf a).scheme++ ':'::rest := by
  cases h with
  | http addr auth => exact ⟨"//".toList++authKey auth++addr.display,rfl⟩
  | https addr auth sni skip =>
    exact ⟨"//".toList++authKey auth++addr.display++"?sni=".toList++sni.getD []++
      "&skip-cert-verify=".toList++boolText skip,rfl⟩
  | socks5 addr auth remoteDns => cases remoteDns <;> exact ⟨"//".toList++authKey auth++addr.display,rfl⟩
  | socks4 addr auth remoteDns => cases remoteDns <;> exact ⟨"//".toList++authKey auth++addr.display,rfl⟩
  | shadowsocks server label => exact ⟨"//".toList++server.method.name++ '@'::server.addr,rfl⟩
  | meow h =>
    obtain rfl := buildMeowNode_eq h
    exact ⟨"//".toList++_++ ':'::_++ '@'::_++ ':'::_,rfl⟩

/-- Nodes of different kinds never share a key. -/
theorem kindOf_eq (ha : Produced env a) (hb : Produced env b) (h : a.key=b.key) : kindOf a=kindOf b := by
  have hcolon : ∀ kind : NodeKind, ':' ∉ kind.scheme := by decide
  have hinj : ∀ kind kind' : NodeKind, kind.scheme=kind'.scheme → kind=kind' := by decide
  obtain ⟨rest,hrest⟩ := ha.key_scheme
  obtain ⟨rest',hrest'⟩ := hb.key_scheme
  rw [hrest,hrest'] at h
  exact hinj _ _ ((append_sep_eq_iff_of_field (hcolon _) (hcolon _)).mp h).1

lemma keysApart_of_kind (h : kindOf a ≠ kindOf b) : KeysApart env a b := by
  cases a <;> cases b <;> first
    | exact absurd rfl h
    | trivial
    | exact fun heq => absurd (by rw [kindOf,kindOf,heq]) h

theorem tells_iff (ha : Produced env a) (hb : Produced env b) :
    (a.key=b.key → dial env a=dial env b) ↔ KeysApart env a b := by
  by_cases hkind : kindOf a=kindOf b
  · cases ha with
    | http addr auth =>
      cases hb <;> cases hkind
      exact http_tells
    | https addr auth sni skip =>
      cases hb <;> cases hkind
      exact https_tells
    | socks5 addr auth remoteDns =>
      cases hb <;> cases hkind
      exact (socks5_tells remoteDns).trans ⟨fun h _ => h,fun h => h rfl⟩
    | socks4 addr auth remoteDns =>
      cases hb <;> cases hkind
      exact (socks4_tells remoteDns).trans ⟨fun h _ => h,fun h => h rfl⟩
    | shadowsocks server label =>
      cases hb <;> cases hkind
      exact shadowsocks_tells
    | @meow source node adapter h =>
      cases hb with
      | @meow source' node' adapter' h' =>
        have hsource : node.source=source := congrArg MeowProxyNode.source (buildMeowNode_eq h)
        have hsource' : node'.source=source' := congrArg MeowProxyNode.source (buildMeowNode_eq h')
        rw [KeysApart,hsource,hsource']
        exact meow_tells h h'
      | _ => cases hkind
  · exact iff_of_true (fun h => absurd (kindOf_eq ha hb h) hkind) (keysApart_of_kind hkind)

end

def plainMeowExternals : MeowExternals where
  toTransportExternals := plainTransportExternals
  uuidParse _ := none
  autoSecurity := .aes128Gcm
  isBuiltinObfsPlugin _ := false
  sha224 _ := []
  parseSecs _ := none
  proxyErrorText text := text
  adapterNew _ _ := true

/-- A trojan node with this password. -/
def sampleTrojan (password : Str) : MihomoProxyConfig where
  name := "a".toList
  kind := "trojan".toList
  value := .mapping [(.string "name".toList,.string "a".toList),(.string "type".toList,.string "trojan".toList),
    (.string "server".toList,.string "example.com".toList),(.string "port".toList,.number (.posInt 443)),
    (.string "password".toList,.string password)]

end RotatorProxy.Mihomo
