import RotatorProxy.Mihomo.Gate
import RotatorProxy.Mihomo.ServerName

/-! A blank `sni` or `servername` in each kind of source: only the complex nodes fall back to their server. -/
namespace RotatorProxy.Mihomo
open Text Proxy Link Library

variable {field value key : Str}

lemma nameFields_not_clash (h : field ∈ nameFields) : field ∉ clashFields := by
  have hall : nameFields.all (fun field => decide (field ∉ clashFields)) = true := by decide
  exact of_decide_eq_true (List.all_eq_true.mp hall field h)

/-! Clash entries -/

section
variable {mapping mapping' : Mapping} {entry entry' : ClashProxy} {ext : Externals}

lemma extraEntry_key {found : YamlValue × YamlValue} {pair : Str × YamlValue}
    (h : extraEntry found=some (some pair)) : readString found.1=some pair.1 := by
  unfold extraEntry at h
  split at h
  · cases h
  · next key hkey =>
    split_ifs at h
    · cases h
    · cases h
      exact hkey

/-- The entry is read as before, and the name is among what it does not know. -/
lemma Names.clashProxyFromValue (h : Names field value mapping mapping')
    (hentry : clashProxyFromValue (.mapping mapping)=some entry) : ∃ before after,
      entry.extra=before++after ∧ (∀ pair ∈ entry.extra, pair.1 ∉ nameFields) ∧
      Mihomo.clashProxyFromValue (.mapping mapping')=
        some {entry with extra := before++(field,.string value)::after} := by
  obtain ⟨⟨extra,hextra,heq⟩,hfields⟩ := clashProxyFromValue_eq_some_iff.mp hentry
  have hnames : ∀ pair ∈ entry.extra, pair.1 ∉ nameFields := by
    intro pair hpair hname
    rw [heq] at hpair
    obtain ⟨_,hmem,rfl⟩ := List.mem_filterMap.mp hpair
    obtain ⟨found,hfound,hread⟩ := mem_of_mapM hextra _ hmem
    exact h.absent found hfound _ hname (extraEntry_key hread)
  have hvalues : ∀ key ∈ clashFields, fieldValues mapping' key=fieldValues mapping key := by
    intro key hkey
    have hne : field ≠ key := by
      rintro rfl
      exact nameFields_not_clash h.known hkey
    obtain ⟨before,after,rfl,rfl⟩ := h.entries
    simp only [fieldValues,List.filter_append,List.filter_cons,readString,Option.some.injEq,hne,decide_false,
      Bool.false_eq_true,if_false]
  have hnew : extraEntry (.string field,.string value)=some (some (field,.string value)) := by
    simp only [extraEntry,readString,if_neg (nameFields_not_clash h.known),untagged,if_true]
  have happend : ∃ before after, extra=before++after ∧
      mapping'.mapM extraEntry=some (before++some (field,.string value)::after) := by
    obtain ⟨before,after,rfl,rfl⟩ := h.entries
    rw [List.mapM_append] at hextra
    obtain ⟨first,hfirst,hextra⟩ := Option.bind_eq_some_iff.mp hextra
    obtain ⟨rest,hrest,hextra⟩ := Option.bind_eq_some_iff.mp hextra
    cases hextra
    refine ⟨first,rest,rfl,?_⟩
    rw [List.mapM_append,hfirst,List.mapM_cons,hnew,hrest]
    rfl
  obtain ⟨before,after,rfl,hextra'⟩ := happend
  refine ⟨before.filterMap id,after.filterMap id,by rw [heq,List.filterMap_append],hnames,?_⟩
  rw [clashProxyFromValue_eq_some_iff]
  refine ⟨⟨_,hextra',by simp⟩,?_⟩
  obtain ⟨hname,hkind,hserver,hport,husername,hpassword,hcipher,hmethod,htls,hplugin⟩ := hfields
  have hsame : ∀ {α : Type} {read : YamlValue → Option (Option α)}, ∀ key ∈ clashFields,
      optionalField read mapping' key=optionalField read mapping key := by
    intro α read key hkey
    rw [optionalField,optionalField,hvalues key hkey]
  simp (disch := decide) only [hsame]
  exact ⟨hname,hkind,hserver,hport,husername,hpassword,hcipher,hmethod,htls,hplugin⟩

lemma getExtra_none (h : ∀ pair ∈ entry.extra, pair.1 ∉ nameFields) (hkey : key ∈ nameFields) :
    entry.getExtra key=none := by
  rw [ClashProxy.getExtra,Option.map_eq_none_iff,List.find?_eq_none]
  intro pair hpair heq
  have hne := h pair (List.mem_reverse.mp hpair)
  rw [of_decide_eq_true heq] at hne
  exact hne hkey

lemma clashStringExtra_none (h : ∀ pair ∈ entry.extra, pair.1 ∉ nameFields) :
    clashStringExtra entry nameFields=none :=
  List.findSome?_eq_none_iff.mpr fun key hkey => by rw [getExtra_none h hkey,Option.bind_none]

section
variable {before after : List (Str × YamlValue)}

lemma getExtra_ne (h : entry.extra=before++after) (hne : key ≠ field) :
    ClashProxy.getExtra {entry with extra := before++(field,.string value)::after} key=entry.getExtra key := by
  simp [ClashProxy.getExtra,h,List.find?_append,Ne.symm hne]

lemma getExtra_field (h : entry.extra=before++after) (hnames : ∀ pair ∈ entry.extra, pair.1 ∉ nameFields)
    (hfield : field ∈ nameFields) :
    ClashProxy.getExtra {entry with extra := before++(field,.string value)::after} field=some (.string value) := by
  have hnone := getExtra_none hnames hfield
  rw [ClashProxy.getExtra,h,List.reverse_append,List.find?_append,Option.map_eq_none_iff,
    Option.or_eq_none_iff] at hnone
  simp [ClashProxy.getExtra,List.find?_append,hnone.1]

lemma clashStringExtra_field (h : entry.extra=before++after) (hnames : ∀ pair ∈ entry.extra, pair.1 ∉ nameFields)
    (hfield : field ∈ nameFields) :
    clashStringExtra {entry with extra := before++(field,.string value)::after} nameFields=some value := by
  have hself : ClashProxy.getExtra {entry with extra := before++(field,.string value)::after} field=
      some (.string value) := getExtra_field h hnames hfield
  rw [clashStringExtra,nameFields,List.findSome?_cons,List.findSome?_cons]
  obtain rfl | hname := List.mem_cons.mp hfield
  · rw [hself]
    rfl
  · obtain rfl := List.mem_singleton.mp hname
    rw [getExtra_ne h (by decide),getExtra_none hnames (by decide),hself]
    rfl

end

/-! An HTTPS proxy of a document -/

/-- Only a node of type http can have a name. -/
lemma clashEntryToProxy_tls {meowEnv : MeowExternals} {node : ProxyNode}
    (h : clashEntryToProxy ext entry = .ok (.native node)) (htls : tlsName meowEnv node ≠ none) :
    clashHttp entry (entry.name.getD (toAsciiLowercase entry.kind)) = .ok node ∧
      toAsciiLowercase entry.kind="http".toList := by
  unfold clashEntryToProxy at h
  dsimp only at h
  split_ifs at h with hgroup honly hhttp hsocks hss hplugin hother
  · cases h
  · cases h
  · obtain ⟨_,hnode,heq⟩ := map_eq_ok.mp h
    cases heq
    exact ⟨hnode,hhttp⟩
  · obtain ⟨_,hnode,heq⟩ := map_eq_ok.mp h
    cases heq
    obtain ⟨_,-,hnode⟩ := bind_eq_ok.mp hnode
    obtain ⟨_,-,hnode⟩ := bind_eq_ok.mp hnode
    cases hnode
    exact absurd rfl htls
  · cases h
  · obtain ⟨_,hnode,heq⟩ := map_eq_ok.mp h
    cases heq
    obtain ⟨_,-,hnode⟩ := bind_eq_ok.mp hnode
    obtain ⟨_,-,hnode⟩ := bind_eq_ok.mp hnode
    obtain ⟨_,-,hnode⟩ := bind_eq_ok.mp hnode
    split at hnode
    · cases hnode
    · split at hnode
      · cases hnode
        exact absurd rfl htls
      · cases hnode
  · cases h
  · cases h

lemma clashEntryToProxy_extra {extra : List (Str × YamlValue)} {node : ProxyNode}
    (hkind : toAsciiLowercase entry.kind="http".toList)
    (h : clashHttp {entry with extra := extra} (entry.name.getD (toAsciiLowercase entry.kind)) = .ok node)
    (ext : Externals) : clashEntryToProxy ext {entry with extra := extra} = .ok (.native node) := by
  have hsame : (clashEntryToProxy ext {entry with extra := extra}) = _ := clashEntryToProxy_http hkind
  rw [hsame]
  exact map_eq_ok.mpr ⟨node,h,rfl⟩

lemma clashHttp_tls {meowEnv : MeowExternals} {name : Str} {node : ProxyNode} (h : clashHttp entry name = .ok node)
    (htls : tlsName meowEnv node ≠ none) : ∃ addr auth skip,
    node = .https addr auth (clashStringExtra entry nameFields) skip ∧ trim addr.host ≠ [] ∧
      ∀ before after, entry.extra=before++after → (∀ pair ∈ entry.extra, pair.1 ∉ nameFields) →
        field ∈ nameFields → clashHttp {entry with extra := before++(field,.string value)::after} name =
          .ok (.https addr auth (some value) skip) := by
  unfold clashHttp at h
  obtain ⟨⟨server,port⟩,hserver,h⟩ := bind_eq_ok.mp h
  obtain ⟨addr',haddr,h⟩ := bind_eq_ok.mp h
  dsimp only at haddr h
  split_ifs at h with hon
  · cases h
    refine ⟨addr',_,_,rfl,?_,fun before after hextra hnames hfield => ?_⟩
    · unfold HostPort.new at haddr
      split_ifs at haddr with hblank
      cases haddr
      exact hblank
    · have hbool : clashBoolExtra {entry with extra := before++(field,.string value)::after}
          ["skip-cert-verify".toList,"allow-insecure".toList,"insecure".toList]=
          clashBoolExtra entry ["skip-cert-verify".toList,"allow-insecure".toList,"insecure".toList] := by
        refine findSome?_congr fun key hkey => ?_
        have hkeys : ["skip-cert-verify".toList,"allow-insecure".toList,"insecure".toList].all
            (fun key => decide (key ∉ nameFields)) = true := by decide
        have hne : key ≠ field := by
          rintro rfl
          exact of_decide_eq_true (List.all_eq_true.mp hkeys key hkey) hfield
        rw [getExtra_ne hextra hne]
      unfold clashHttp
      refine bind_eq_ok.mpr ⟨(server,port),hserver,bind_eq_ok.mpr ⟨addr',haddr,?_⟩⟩
      dsimp only
      rw [if_pos hon,hbool]
      have hsni : clashStringExtra {entry with extra := before++(field,.string value)::after} nameFields=
          some value := clashStringExtra_field hextra hnames hfield
      rw [nameFields] at hsni
      rw [hsni]
      rfl
  · cases h
    exact absurd rfl htls

end

/-! Links -/

/-- `url'` has one more pair in its query than `url`: one of the two names, of which `url` has none. The URL
crate puts a path behind the authority of every https link. -/
structure AddsPair (field value : Str) (url url' : Url) : Prop where
  known : field ∈ nameFields
  absent : ∀ pair ∈ url.queryPairs, pair.1 ∉ nameFields
  pairs : ∃ before after, url.queryPairs=before++after ∧ url'.queryPairs=before++(field,value)::after
  rest : url'={url with queryPairs := url'.queryPairs, query := url'.query, asStr := url'.asStr}
  text : ∃ authority tail tail', (∀ c ∈ authority, c ∉ ['/','?','#']) ∧
    url.asStr="https".toList++"://".toList++(authority++ '/'::tail) ∧
    url'.asStr="https".toList++"://".toList++(authority++ '/'::tail')

namespace AddsPair
variable {url url' : Url} (h : AddsPair field value url url')
include h

lemma queryParam_none (hkey : key ∈ nameFields) : queryParam url key=none := by
  rw [queryParam,Option.map_eq_none_iff,List.find?_eq_none]
  intro pair hpair heq
  rw [← of_decide_eq_true heq] at hkey
  exact h.absent pair hpair hkey

lemma queryParam_ne (hne : key ≠ field) : queryParam url' key=queryParam url key := by
  obtain ⟨before,after,hbefore,hafter⟩ := h.pairs
  simp [queryParam,hbefore,hafter,List.find?_append,Ne.symm hne]

lemma queryParam_field : queryParam url' field=some value := by
  have hnone := h.queryParam_none h.known
  obtain ⟨before,after,hbefore,hafter⟩ := h.pairs
  rw [queryParam,hbefore,List.find?_append,Option.map_eq_none_iff,Option.or_eq_none_iff] at hnone
  simp [queryParam,hafter,List.find?_append,hnone.1]

lemma queryParam_eq (hkey : decide (key ∉ nameFields) = true) : queryParam url' key=queryParam url key :=
  h.queryParam_ne fun heq => of_decide_eq_true hkey (heq ▸ h.known)

lemma hasExplicitPort_eq : urlHasExplicitPort url'=urlHasExplicitPort url := by
  obtain ⟨authority,tail,tail',hauthority,htext,htext'⟩ := h.text
  have hsplit : ∀ rest, splitOnceStr "://".toList ("https".toList++"://".toList++rest)=some ("https".toList,rest) :=
    splitOnceStr_append (d := ':') rfl (by decide)
  have hpiece : ∀ tail, firstPiece ['/','?','#'] (authority++ '/'::tail)=authority :=
    fun tail => firstPiece_append hauthority (by decide) tail
  simp only [urlHasExplicitPort,htext,htext',hsplit,authorityOf,authorityWithoutUserinfo,hpiece]

lemma hostPort_eq (port : Option UInt16) : portOrKnownDefault url' port=portOrKnownDefault url port := by
  have hport : url'.port=url.port := by rw [h.rest]
  have hdefault : url'.portOrKnownDefault=url.portOrKnownDefault := by rw [h.rest]
  rw [portOrKnownDefault,portOrKnownDefault,h.hasExplicitPort_eq,hport,hdefault]

/-- The choice between the two keys -/
lemma sni_eq : (queryParam url' "sni".toList).or (queryParam url' "servername".toList)=some value := by
  obtain rfl | hname := List.mem_cons.mp h.known
  · rw [h.queryParam_field]
    rfl
  · obtain rfl := List.mem_singleton.mp hname
    rw [h.queryParam_ne (by decide),h.queryParam_none (by decide),h.queryParam_field]
    rfl

/-- A link that is taken for a proxy is one with a name, too. -/
lemma looks (hlooks : looksLikeHttpsProxyUrl url = true) : looksLikeHttpsProxyUrl url' = true := by
  have hsome : ∀ user fragment sni name a b c : Bool, (sni || name) = true →
      (user || fragment || sni || name || a || b || c) = true := by
    intro user fragment sni name a b c h
    cases sni
    · cases name
      · cases h
      · simp
    · simp
  have hpath : url'.path=url.path := by rw [h.rest]
  have hgiven : ((queryParam url' "sni".toList).isSome || (queryParam url' "servername".toList).isSome) = true := by
    rw [← Option.isSome_or,h.sni_eq]
    rfl
  have hboth := (Bool.and_eq_true _ _).mp hlooks
  rw [looksLikeHttpsProxyUrl,h.hostPort_eq,hpath,hboth.1,Bool.true_and]
  exact hsome _ _ _ _ _ _ _ hgiven

end AddsPair

section
variable {env : LinkExternals} {line : Str}

lemma parseHttpsUrl_ok {url : Url} {node : ProxyNode} (h : parseHttpsUrl env url = .ok (some node)) :
    ∃ addr auth skip,
      node = .https addr auth ((queryParam url "sni".toList).or (queryParam url "servername".toList)) skip ∧
      trim addr.host ≠ [] ∧ ∀ url', AddsPair field value url url' →
        parseHttpsUrl env url' = .ok (some (.https addr auth (some value) skip)) := by
  unfold parseHttpsUrl at h
  split_ifs at h with hlooks
  · cases h
  · obtain ⟨addr,haddr,heq⟩ := map_eq_ok.mp h
    cases heq
    refine ⟨addr,_,_,rfl,?_,fun url' hadds => ?_⟩
    · unfold hostPortFromUrl at haddr
      split at haddr
      · cases haddr
      · split at haddr
        · cases haddr
        · unfold HostPort.new at haddr
          split_ifs at haddr with hblank
          cases haddr
          exact hblank
    · have hlooks' := hadds.looks (by simpa using hlooks)
      have hhost : hostPortFromUrl url' (some 443) = .ok addr := by
        have hstr : url'.hostStr=url.hostStr := by rw [hadds.rest]
        unfold hostPortFromUrl at haddr ⊢
        rw [hadds.hostPort_eq,hstr]
        split at haddr
        · cases haddr
        · split at haddr
          · cases haddr
          · exact haddr
      have hcredentials : credentialsFromUrl env url'=credentialsFromUrl env url := by
        have husername : url'.username=url.username := by rw [hadds.rest]
        have hpassword : url'.password=url.password := by rw [hadds.rest]
        rw [credentialsFromUrl,credentialsFromUrl,husername,hpassword]
      rw [parseHttpsUrl,if_neg (by simp [hlooks']),hhost,hcredentials,hadds.sni_eq,hadds.queryParam_eq rfl,
        hadds.queryParam_eq rfl,hadds.queryParam_eq rfl]
      rfl

/-- A line that is neither empty nor a Shadowsocks link goes to the URL crate. -/
lemma parseProxyUrl_eq {url : Url} (hne : trim line ≠ []) (hss : "ss://".toList.isPrefixOf (trim line) = false)
    (hurl : env.parseUrl (trim line)=some url) (hscheme : toAsciiLowercase url.scheme="https".toList) :
    parseProxyUrl env line=parseHttpsUrl env url := by
  unfold parseProxyUrl
  dsimp only
  rw [if_neg hne,hss,hurl]
  dsimp only
  rw [hscheme]
  rfl

lemma parseProxyUrl_tls {meowEnv : MeowExternals} {node : ProxyNode} (h : parseProxyUrl env line = .ok (some node))
    (htls : tlsName meowEnv node ≠ none) : trim line ≠ [] ∧ "ss://".toList.isPrefixOf (trim line) = false ∧
      ∃ url, env.parseUrl (trim line)=some url ∧ toAsciiLowercase url.scheme="https".toList ∧
        parseHttpsUrl env url = .ok (some node) := by
  unfold parseProxyUrl at h
  dsimp only at h
  split_ifs at h with hempty hss
  · cases h
  · obtain ⟨_,_,heq⟩ := map_eq_ok.mp h
    cases heq
    exact absurd rfl htls
  · refine ⟨hempty,Bool.eq_false_iff.mpr hss,?_⟩
    cases hurl : env.parseUrl (trim line) with
    | none =>
      rw [hurl] at h
      cases h
    | some url =>
      rw [hurl] at h
      dsimp only at h
      split_ifs at h with hhttp hhttps hsocks5 hsocks4
      · unfold parseHttpUrl at h
        split_ifs at h
        · cases h
        · obtain ⟨_,_,heq⟩ := map_eq_ok.mp h
          cases heq
          exact absurd rfl htls
      · exact ⟨url,rfl,hhttps,h⟩
      · obtain ⟨_,_,heq⟩ := map_eq_ok.mp h
        cases heq
        exact absurd rfl htls
      · obtain ⟨_,_,heq⟩ := map_eq_ok.mp h
        cases heq
        exact absurd rfl htls
      · cases h

end

/-! The sources -/

inductive TlsSource
  | link (line : Str)
  | clash (mapping : Mapping)
  | complex (proxy : MihomoProxyConfig)

namespace TlsSource

/-- The node that the source gives: an https link, an entry of a Clash document or a complex node. -/
def Makes (env : LinkExternals) (meowEnv : MeowExternals) (node : ProxyNode) : TlsSource → Prop
  | link line => parseProxyUrl env line = .ok (some node)
  | clash mapping => (clashLoaded env.toExternals (.mapping mapping)).native=[node]
  | complex proxy => ∃ adapter meow, buildMeowNode meowEnv proxy = .ok (meow,adapter) ∧ node = .meow meow

/-- The same source with one of the two names, of which it had none. A link is the same up to its query. -/
def Adds (env : LinkExternals) (field value : Str) : TlsSource → TlsSource → Prop
  | link line,link line' => (trim line').take 5=(trim line).take 5 ∧ ∀ url, env.parseUrl (trim line)=some url →
    ∃ url', env.parseUrl (trim line')=some url' ∧ AddsPair field value url url'
  | clash mapping,clash mapping' => Names field value mapping mapping'
  | complex proxy,complex proxy' => proxy'.name=proxy.name ∧ proxy'.kind=proxy.kind ∧
    ∃ mapping mapping', asMapping proxy.value=some mapping ∧ asMapping proxy'.value=some mapping' ∧
      kindOfMapping proxy mapping ∈ namedTypes ∧ Names field value mapping mapping'
  | _,_ => False

def isComplex : TlsSource → Bool
  | complex _ => true
  | _ => false

end TlsSource

section
variable {env : LinkExternals} {meowEnv : MeowExternals} {source source' : TlsSource}

/-- Both readers of HTTPS proxies take the name as it stands. -/
lemma TlsSource.https_reaches {node : ProxyNode} (hadds : source.Adds env field value source')
    (hmakes : source.Makes env meowEnv node) (htls : tlsName meowEnv node ≠ none) (hnative : source.isComplex=false) :
    ∃ addr auth skip, node = .https addr auth none skip ∧ trim addr.host ≠ [] ∧
      ∀ node', source'.Makes env meowEnv node' ↔ node' = .https addr auth (some value) skip := by
  cases source with
  | link line =>
    cases source' with
    | link line' =>
      obtain ⟨hhead,hadds⟩ := hadds
      obtain ⟨hne,hss,url,hurl,hscheme,hparse⟩ := parseProxyUrl_tls hmakes htls
      obtain ⟨url',hurl',hadds⟩ := hadds url hurl
      obtain ⟨addr,auth,skip,rfl,hhost,hparse'⟩ := parseHttpsUrl_ok hparse
      have hnone : (queryParam url "sni".toList).or (queryParam url "servername".toList)=none := by
        rw [hadds.queryParam_none (by decide),hadds.queryParam_none (by decide)]
        rfl
      refine ⟨addr,auth,skip,by rw [hnone],hhost,fun node' => ?_⟩
      have hne' : trim line' ≠ [] := by
        intro h
        rw [h,List.take_nil,eq_comm,List.take_eq_nil_iff] at hhead
        exact hne (hhead.resolve_left (by decide))
      have hss' : "ss://".toList.isPrefixOf (trim line') = false := by
        have hstarts : ∀ s : Str, "ss://".toList.isPrefixOf s = true ↔ "ss://".toList <+: s.take 5 := by
          intro s
          rw [List.isPrefixOf_iff_prefix,List.prefix_take_iff]
          exact (and_iff_left (by decide)).symm
        rw [Bool.eq_false_iff,ne_eq,hstarts,hhead,← hstarts,hss]
        exact Bool.false_ne_true
      have hscheme' : url'.scheme=url.scheme := by rw [hadds.rest]
      have heq : parseProxyUrl env line' = .ok (some (.https addr auth (some value) skip)) :=
        (parseProxyUrl_eq hne' hss' hurl' (hscheme' ▸ hscheme)).trans (hparse' url' hadds)
      rw [Makes,heq]
      constructor
      · intro h
        cases h
        rfl
      · rintro rfl
        rfl
    | clash mapping => exact hadds.elim
    | complex proxy => exact hadds.elim
  | clash mapping =>
    cases source' with
    | link line' => exact hadds.elim
    | clash mapping' =>
      obtain ⟨entry,hentry,hproxy⟩ := clashLoaded_native_iff.mp hmakes
      obtain ⟨hhttp,hkind⟩ := clashEntryToProxy_tls hproxy htls
      obtain ⟨addr,auth,skip,rfl,hhost,hhttp'⟩ := clashHttp_tls hhttp htls
      obtain ⟨before,after,hextra,hnames,hentry'⟩ := Names.clashProxyFromValue hadds hentry
      refine ⟨addr,auth,skip,by rw [clashStringExtra_none hnames],hhost,fun node' => clashLoaded_native_iff.trans ?_⟩
      have hproxy' := clashEntryToProxy_extra hkind (hhttp' before after hextra hnames hadds.known) env.toExternals
      rw [hentry']
      constructor
      · rintro ⟨_,hsome,h⟩
        obtain rfl := Option.some.inj hsome
        rw [hproxy'] at h
        cases h
        rfl
      · rintro rfl
        exact ⟨_,rfl,hproxy'⟩
    | complex proxy => exact hadds.elim
  | complex proxy => cases hnative

lemma presentedName_meow {proxy : MihomoProxyConfig} {node : MeowProxyNode} {adapter : MeowAdapter}
    (h : buildMeowNode meowEnv proxy = .ok (node,adapter)) : tlsName meowEnv (.meow node)=adapter.serverName ∧
      nodeHost meowEnv (.meow node)=some adapter.server := by
  have hsource : node.source=proxy := congrArg MeowProxyNode.source (buildMeowNode_eq h)
  have hadapter : adapterOf meowEnv node.source=some adapter := by rw [adapterOf,hsource,h]
  rw [tlsName,nodeHost,hadapter]
  exact ⟨rfl,rfl⟩

/-- The same of a complex node: the name that a blank one stands for is that of the server. -/
lemma TlsSource.complex_reaches {proxy : MihomoProxyConfig} {node : ProxyNode}
    (hadds : (complex proxy).Adds env field value source') (hmakes : (complex proxy).Makes env meowEnv node)
    (htls : tlsName meowEnv node ≠ none) :
    (trim value=[] → tlsName meowEnv node=nodeHost meowEnv node ∧
      ∃ node', source'.Makes env meowEnv node' ∧ tlsName meowEnv node'=nodeHost meowEnv node) ∧
    (meowEnv.isServerName value → trim value=value → value ≠ [] → ∀ node',
      source'.Makes env meowEnv node' → tlsName meowEnv node'=some value) := by
  cases source' with
  | link line => exact hadds.elim
  | clash mapping => exact hadds.elim
  | complex proxy' =>
    obtain ⟨hname,hkind,mapping,mapping',hvalue,hvalue',htype,hnames⟩ := hadds
    obtain ⟨adapter,meow,hbuild,rfl⟩ := hmakes
    obtain ⟨htlsName,hhost⟩ := presentedName_meow hbuild
    rw [htlsName] at htls
    obtain ⟨hblank,hvalid⟩ :=
      buildMeowNode_reaches hnames hname hkind hvalue hvalue' htype meow adapter hbuild htls
    rw [htlsName,hhost]
    refine ⟨fun h => ?_,fun hserver htrim hne node' hmakes' => ?_⟩
    · obtain ⟨hserver,meow',adapter',hbuild',hserver'⟩ := hblank h
      exact ⟨hserver,.meow meow',⟨adapter',meow',hbuild',rfl⟩,(presentedName_meow hbuild').1.trans hserver'⟩
    · obtain ⟨adapter',meow',hbuild',rfl⟩ := hmakes'
      exact (presentedName_meow hbuild').1.trans (hvalid hserver htrim hne meow' adapter' hbuild')

lemma filter_eq_self_iff {α : Type} {p : α → Bool} {a : α} : (some a).filter p=some a ↔ p a = true := by
  rw [Option.filter_some]
  split_ifs with h <;> simp [h]

/-- A node keeps presenting the name of its host when a blank name is put into its source, exactly if it is a
complex node whose host is a valid name. A valid name is always presented. -/
theorem blank_name_iff {node : ProxyNode} (hadds : source.Adds env field value source')
    (hmakes : source.Makes env meowEnv node) (htls : tlsName meowEnv node ≠ none) :
    (trim value=[] → ((∃ host node', nodeHost meowEnv node=some host ∧ source'.Makes env meowEnv node' ∧
        presentedName meowEnv node=some host ∧ presentedName meowEnv node'=some host) ↔
      source.isComplex = true ∧ ∃ host, nodeHost meowEnv node=some host ∧ meowEnv.isServerName host = true)) ∧
    (meowEnv.isServerName value → trim value=value → value ≠ [] → ∀ node',
      source'.Makes env meowEnv node' → presentedName meowEnv node'=some value) := by
  by_cases hcomplex : source.isComplex = true
  · cases source with
    | link line => cases hcomplex
    | clash mapping => cases hcomplex
    | complex proxy =>
      obtain ⟨hblank,hvalid⟩ := TlsSource.complex_reaches hadds hmakes htls
      refine ⟨fun h => ?_,fun hserver htrim hne node' hmakes' => ?_⟩
      · obtain ⟨hname,node',hmakes',hname'⟩ := hblank h
        constructor
        · rintro ⟨host,_,hhost,_,hpresented,_⟩
          rw [presentedName,hname,hhost,filter_eq_self_iff] at hpresented
          exact ⟨rfl,host,hhost,hpresented⟩
        · rintro ⟨-,host,hhost,hserver⟩
          refine ⟨host,node',hhost,hmakes',?_,?_⟩
          · rw [presentedName,hname,hhost,filter_eq_self_iff.mpr hserver]
          · rw [presentedName,hname',hhost,filter_eq_self_iff.mpr hserver]
      · rw [presentedName,hvalid hserver htrim hne node' hmakes',filter_eq_self_iff.mpr hserver]
  · obtain ⟨addr,auth,skip,rfl,hhost,hmakes'⟩ :=
      TlsSource.https_reaches hadds hmakes htls (Bool.eq_false_iff.mpr hcomplex)
    refine ⟨fun h => ?_,fun hserver htrim hne node' h => ?_⟩
    · refine iff_of_false ?_ fun hand => hcomplex hand.1
      rintro ⟨host,node',hnode,h',-,hpresented⟩
      cases hnode
      rw [(hmakes' node').mp h'] at hpresented
      have hvalue : value=addr.host := (Option.filter_eq_some_iff.mp hpresented).1 |> Option.some.inj
      exact hhost (hvalue ▸ h)
    · rw [(hmakes' node').mp h]
      exact filter_eq_self_iff.mpr hserver

end

/-! A blank name in an HTTPS proxy, and one in a trojan node -/

/-- No name is valid that is empty. -/
def namingExternals : MeowExternals := {plainMeowExternals with isServerName := fun name => decide (name ≠ [])}

def clashHttps : Mapping :=
  [(.string "type".toList,.string "http".toList),(.string "server".toList,.string "example.com".toList),
    (.string "port".toList,.number (.posInt 443)),(.string "tls".toList,.bool true)]

/-- `sni: ""` -/
def emptySni : Mapping := [(.string "sni".toList,.string [])]

theorem empty_sni_presents_nothing :
    let node := fun sni => ProxyNode.https ⟨"example.com".toList,443⟩ none sni false
    TlsSource.Adds sampleLinkExternals "sni".toList [] (.clash clashHttps) (.clash (clashHttps++emptySni)) ∧
      TlsSource.Makes sampleLinkExternals namingExternals (node none) (.clash clashHttps) ∧
      TlsSource.Makes sampleLinkExternals namingExternals (node (some [])) (.clash (clashHttps++emptySni)) ∧
      presentedName namingExternals (node none)=some "example.com".toList ∧
      presentedName namingExternals (node (some []))=none := by
  refine ⟨⟨by decide,?_,clashHttps,[],rfl,rfl⟩,rfl,rfl,rfl,rfl⟩
  simp [clashHttps,nameFields,readString]

theorem blank_name_trojan :
    let node := meowNode (sampleTrojan "secret".toList) "a".toList "example.com".toList 443
    let source := TlsSource.complex {sampleTrojan "secret".toList with
      value := .mapping (clashTrojan (.string "secret".toList)++emptySni)}
    (∃ host node', nodeHost namingExternals (.meow node)=some host ∧
      source.Makes sampleLinkExternals namingExternals node' ∧
      presentedName namingExternals (.meow node)=some host ∧ presentedName namingExternals node'=some host) ↔
    true = true ∧ ∃ host, nodeHost namingExternals (.meow node)=some host ∧ namingExternals.isServerName host = true := by
  intro node source
  have hadds : TlsSource.Adds sampleLinkExternals "sni".toList [] (.complex (sampleTrojan "secret".toList)) source := by
    refine ⟨rfl,rfl,_,_,rfl,rfl,by decide,by decide,?_,clashTrojan (.string "secret".toList),[],rfl,rfl⟩
    simp [nameFields,readString]
  exact (blank_name_iff hadds ⟨_,node,rfl,rfl⟩ (by decide)).1 rfl

end RotatorProxy.Mihomo
