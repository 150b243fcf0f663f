import RotatorProxy.Library.Worklist
import RotatorProxy.Link.Credentials
import RotatorProxy.Mihomo.Clash

/-! `parse_content_queue`: a local file, and all that its subscriptions lead to. The answer to a request may
depend on everything that was requested before. -/
namespace RotatorProxy.Link
open Text Proxy Mihomo Library

def maxSubscriptionDepth : ℕ := 4

def base64MinLen : ℕ := 8

/-- The YAML crate, and the server of every URL. -/
structure SourceExternals extends LinkExternals where
  /-- `serde_yaml::from_str` -/
  yamlFromStr : Str → Option YamlValue
  /-- `fetch_subscription`, after these requests -/
  fetchSubscription : List Str → Str → Option Str

variable (env : SourceExternals)

/-! One content -/

def looksLikeBase64 (value : Str) : Bool :=
  (utf8 value).all (fun b => let n := b.toNat
    (48 ≤ n && n ≤ 57) || (65 ≤ n && n ≤ 90) || (97 ≤ n && n ≤ 122) ||
      decide (n ∈ ['+','/','-','_','='].map Char.toNat))

def decodeBase64Subscription (content : Str) : Option Str :=
  let normalized := withoutSpace content
  if (utf8 normalized).length < base64MinLen || !looksLikeBase64 normalized then none
  else [env.base64Standard,env.base64UrlSafe].findSome? (fun decode => ((decode normalized).bind fromUtf8).filter
    (fun text => "://".toList <:+: text || "proxies:".toList <:+: text))

structure LocalParseResult where
  proxies : LoadedProxySet
  subscriptionUrls : List Str
  decodedContents : List Str

def LineOutcome.native : LineOutcome → Option ProxyNode
  | proxy (.native node) => some node
  | _ => none

def LineOutcome.mihomo : LineOutcome → Option MihomoProxyConfig
  | proxy (.mihomo config) => some config
  | _ => none

def LineOutcome.subscriptionUrl : LineOutcome → Option Str
  | subscription url => some url
  | _ => none

/-- `parse_clash_yaml_document` of a text -/
def clashDocument (content : Str) : Option ClashYamlParse :=
  (env.yamlFromStr content).bind (parseClashYamlDocument env.toLinkExternals)

/-- It never returns an error. The lines that are not understood are only counted for the log. -/
def parseLocalContent (content : Str) (allowSubscriptions : Bool) : LocalParseResult :=
  match decodeBase64Subscription env content with
  | some decoded => ⟨.empty,[],[decoded]⟩
  | none =>
    match clashDocument env content with
    | some parsed => ⟨parsed.proxies,parsed.providerUrls,[]⟩
    | none =>
      let outcomes := (lines content).map (sourceLine env.toLinkExternals allowSubscriptions)
      ⟨⟨outcomes.filterMap LineOutcome.native,outcomes.filterMap LineOutcome.mihomo⟩,
        outcomes.filterMap LineOutcome.subscriptionUrl,[]⟩

/-! The queue -/

/-- `depth` is all that the program keeps of `via`, the URLs that were fetched on the way here. -/
structure QueuedContent where
  content : Str
  source : Str
  depth : ℕ
  allowSubscriptions : Bool
  via : List Str

/-- A request, and the content that named its URL. -/
structure Request where
  item : QueuedContent
  url : Str

structure Expansion where
  queue : List QueuedContent
  proxies : LoadedProxySet
  requests : List Request

namespace QueuedContent

def localFile (content source : Str) : QueuedContent := ⟨content,source,0,true,[]⟩

def decoded (item : QueuedContent) (text : Str) : QueuedContent :=
  ⟨text,item.source++" <base64>".toList,item.depth,false,item.via⟩

def fetched (item : QueuedContent) (url body : Str) : QueuedContent := ⟨body,url,item.depth+1,false,url::item.via⟩

end QueuedContent

namespace Expansion

def start (content source : Str) : Expansion := ⟨[.localFile content source],.empty,[]⟩

def fetch (item : QueuedContent) (s : Expansion) (url : Str) : Expansion :=
  let requested := {s with requests := s.requests++[⟨item,url⟩]}
  match env.fetchSubscription (s.requests.map Request.url) url with
  | some body => {requested with queue := s.queue++[item.fetched url body]}
  | none => requested

/-- One round of the loop; with an empty queue it is over. -/
def step (s : Expansion) : Expansion :=
  match s.queue with
  | [] => s
  | item::rest =>
    let parsed := parseLocalContent env item.content item.allowSubscriptions
    let s : Expansion := {s with
      queue := rest++parsed.decodedContents.map item.decoded
      proxies := s.proxies.extend parsed.proxies}
    if maxSubscriptionDepth ≤ item.depth then s else parsed.subscriptionUrls.foldl (fetch env item) s

end Expansion

/-- `parse_content_queue` after so many items -/
def parseContentQueue (content source : Str) (rounds : ℕ) : Expansion :=
  (Expansion.step env)^[rounds] (.start content source)

/-! What may be requested -/

/-- A URL of the providers of the Clash document that the content is. -/
def IsProvider (content url : Str) : Prop :=
  ∃ root, env.yamlFromStr content=some root ∧ url ∈ clashProxyProviderUrls env.toLinkExternals root

/-- A line of a content that is read as lines. -/
def IsOwnLine (content url : Str) : Prop :=
  decodeBase64Subscription env content=none ∧ clashDocument env content=none ∧
    ∃ line ∈ lines content, normalizeSourceLine line=some url ∧ isSubscriptionUrl env.toLinkExternals url = true

/-- The contents that a file leads to, and the URLs on the way to them, the last one first. -/
inductive Reached (file : Str) : List Str → Str → Prop
  | file : Reached file [] file
  | decoded {via : List Str} {content text : Str} (reached : Reached file via content)
      (decoded : decodeBase64Subscription env content=some text) : Reached file via text
  | body {via : List Str} {content url body : Str} {past : List Str} (reached : Reached file via content)
      (named : IsProvider env content url ∨ content=file ∧ via=[] ∧ IsOwnLine env file url)
      (answered : env.fetchSubscription past url=some body) : Reached file (url::via) body

/-- The URL is a line of the file, which stands first in the queue, or a provider of a document. -/
structure Request.Allowed (file source : Str) (request : Request) : Prop where
  reached : Reached env file request.item.via request.item.content
  named : IsProvider env request.item.content request.url ∨
    request.item = .localFile file source ∧ IsOwnLine env file request.url

/-- A text that is not empty decodes to fewer bytes than it has characters. -/
def Base64Shrinks (env : LinkExternals) : Prop := ∀ s bytes, s ≠ [] →
  env.base64Standard s=some bytes ∨ env.base64UrlSafe s=some bytes → bytes.length < s.length

theorem CratesDecode.shrinks {env : LinkExternals} (h : CratesDecode env) : Base64Shrinks env := by
  intro s bytes hne hbytes
  by_cases hnil : bytes=[]
  · rw [hnil]
    exact List.length_pos_iff.mpr hne
  · rw [h.standard,h.urlSafe,base64Alphabet_isAlphabet.decode_eq_some_iff,
      base64UrlAlphabet_isAlphabet.decode_eq_some_iff] at hbytes
    obtain hbytes | hbytes := hbytes
    · exact hbytes.length_lt hnil
    · exact hbytes.length_lt hnil

/-! One round -/

section
variable {env : SourceExternals} {content url text : Str} {allow : Bool}

lemma mem_decodedContents : text ∈ (parseLocalContent env content allow).decodedContents ↔
    decodeBase64Subscription env content=some text := by
  unfold parseLocalContent
  cases decodeBase64Subscription env content with
  | some decoded => simp [eq_comm]
  | none => cases clashDocument env content <;> simp

lemma sourceLine_subscription {line : Str} (h : sourceLine env.toLinkExternals allow line = .subscription url) :
    allow = true ∧ normalizeSourceLine line=some url ∧ isSubscriptionUrl env.toLinkExternals url = true := by
  unfold sourceLine at h
  split at h
  · cases h
  · next stripped hline =>
    split at h
    · cases h
    all_goals
      split_ifs at h with hallow
      cases h
      rw [Bool.and_eq_true] at hallow
      exact ⟨hallow.1,hline,hallow.2⟩

lemma mem_subscriptionUrls (h : url ∈ (parseLocalContent env content allow).subscriptionUrls) :
    IsProvider env content url ∨ allow = true ∧ IsOwnLine env content url := by
  unfold parseLocalContent at h
  cases hdecoded : decodeBase64Subscription env content with
  | some decoded => simp [hdecoded] at h
  | none =>
    rw [hdecoded] at h
    cases hdocument : clashDocument env content with
    | some parsed =>
      rw [hdocument] at h
      obtain ⟨root,hroot,hparsed⟩ := Option.bind_eq_some_iff.mp hdocument
      refine .inl ⟨root,hroot,?_⟩
      unfold parseClashYamlDocument at hparsed
      split_ifs at hparsed
      cases hparsed
      exact h
    | none =>
      rw [hdocument] at h
      obtain ⟨outcome,hmem,houtcome⟩ := List.mem_filterMap.mp h
      obtain ⟨line,hline,rfl⟩ := List.mem_map.mp hmem
      have hsource : sourceLine env.toLinkExternals allow line = .subscription url := by
        cases hsource : sourceLine env.toLinkExternals allow line with
        | subscription found =>
          rw [hsource] at houtcome
          cases houtcome
          rfl
        | blank | proxy | unsupported | invalid =>
          rw [hsource] at houtcome
          cases houtcome
      obtain ⟨hallow,hnormalized,hurl⟩ := sourceLine_subscription hsource
      exact .inr ⟨hallow,hdecoded,hdocument,line,hline,hnormalized,hurl⟩

/-- A decoded text is shorter than the one it comes from. -/
lemma decodeBase64Subscription_length (hshrinks : Base64Shrinks env.toLinkExternals)
    (h : decodeBase64Subscription env content=some text) : text.length < content.length := by
  unfold decodeBase64Subscription at h
  dsimp only at h
  split_ifs at h with hshort
  obtain ⟨decode,hmem,hdecode⟩ := List.exists_of_findSome?_eq_some h
  obtain ⟨bytes,hbytes,htext⟩ := Option.bind_eq_some_iff.mp (Option.filter_eq_some_iff.mp hdecode).1
  have hne : withoutSpace content ≠ [] := by
    intro hnil
    simp [hnil,base64MinLen] at hshort
  have hlt : bytes.length < (withoutSpace content).length := by
    refine hshrinks _ _ hne ?_
    simp only [List.mem_cons,List.not_mem_nil,or_false] at hmem
    obtain rfl | rfl := hmem
    · exact .inl hbytes
    · exact .inr hbytes
  have hle : (withoutSpace content).length ≤ content.length := List.length_filter_le _ _
  have hutf8 := length_le_utf8 text
  rw [utf8_of_fromUtf8 htext] at hutf8
  omega

/-- What an item puts behind the queue -/
inductive Child (env : SourceExternals) (item : QueuedContent) : QueuedContent → Prop
  | decoded {text : Str} (decoded : decodeBase64Subscription env item.content=some text) : Child env item (item.decoded text)
  | fetched {url body : Str} {past : List Str} (shallow : item.depth < maxSubscriptionDepth)
      (named : url ∈ (parseLocalContent env item.content item.allowSubscriptions).subscriptionUrls)
      (answered : env.fetchSubscription past url=some body) : Child env item (item.fetched url body)

namespace Expansion

lemma foldl_fetch (item : QueuedContent) (urls : List Str) (s : Expansion) : ∃ new requests,
    (urls.foldl (fetch env item) s).queue=s.queue++new ∧
      (urls.foldl (fetch env item) s).requests=s.requests++requests ∧
      (∀ b ∈ new, ∃ url ∈ urls, ∃ past body, env.fetchSubscription past url=some body ∧ b=item.fetched url body) ∧
      ∀ request ∈ requests, request.item=item ∧ request.url ∈ urls := by
  induction urls generalizing s with
  | nil => exact ⟨[],[],by simp,by simp,by simp,by simp⟩
  | cons url urls ih =>
    obtain ⟨new,requests,hqueue,hrequests,hnew,hnamed⟩ := ih (fetch env item s url)
    have hfirst : (fetch env item s url).requests=s.requests++[⟨item,url⟩] := by
      unfold fetch
      dsimp only
      split <;> rfl
    have hbehind : ∃ first, (fetch env item s url).queue=s.queue++first ∧ ∀ b ∈ first, ∃ past body,
        env.fetchSubscription past url=some body ∧ b=item.fetched url body := by
      unfold fetch
      dsimp only
      cases hbody : env.fetchSubscription (s.requests.map Request.url) url with
      | none => exact ⟨[],(List.append_nil _).symm,by simp⟩
      | some body =>
        refine ⟨[item.fetched url body],rfl,?_⟩
        rintro b hb
        exact ⟨_,body,hbody,List.mem_singleton.mp hb⟩
    obtain ⟨first,hfirstQueue,hfirstNew⟩ := hbehind
    refine ⟨first++new,⟨item,url⟩::requests,?_,?_,?_,?_⟩
    · rw [List.foldl_cons,hqueue,hfirstQueue,List.append_assoc]
    · rw [List.foldl_cons,hrequests,hfirst,List.append_assoc,List.singleton_append]
    · intro b hb
      obtain hb | hb := List.mem_append.mp hb
      · obtain ⟨past,body,hbody,rfl⟩ := hfirstNew b hb
        exact ⟨url,List.mem_cons_self,past,body,hbody,rfl⟩
      · obtain ⟨url',hurl,hrest⟩ := hnew b hb
        exact ⟨url',List.mem_cons_of_mem _ hurl,hrest⟩
    · intro request hmem
      obtain rfl | hmem := List.mem_cons.mp hmem
      · exact ⟨rfl,List.mem_cons_self⟩
      · exact ⟨(hnamed request hmem).1,List.mem_cons_of_mem _ (hnamed request hmem).2⟩

/-- All that a round can do. -/
lemma step_cases {s : Expansion} {item : QueuedContent} {rest : List QueuedContent} (h : s.queue=item::rest) :
    ∃ new requests, (step env s).queue=rest++new ∧ (step env s).requests=s.requests++requests ∧
      (∀ b ∈ new, Child env item b) ∧ ∀ request ∈ requests, request.item=item ∧
        item.depth < maxSubscriptionDepth ∧
        request.url ∈ (parseLocalContent env item.content item.allowSubscriptions).subscriptionUrls := by
  have hdecoded : ∀ b ∈ (parseLocalContent env item.content item.allowSubscriptions).decodedContents.map item.decoded,
      Child env item b := by
    intro b hb
    obtain ⟨text,htext,rfl⟩ := List.mem_map.mp hb
    exact .decoded (mem_decodedContents.mp htext)
  unfold step
  rw [h]
  dsimp only
  split_ifs with hdepth
  · exact ⟨_,[],rfl,(List.append_nil _).symm,hdecoded,by simp⟩
  · obtain ⟨new,requests,hqueue,hrequests,hnew,hnamed⟩ := foldl_fetch item _ _
    refine ⟨_,requests,hqueue.trans (List.append_assoc _ _ _),hrequests,?_,fun request hmem =>
      ⟨(hnamed request hmem).1,not_le.mp hdepth,(hnamed request hmem).2⟩⟩
    intro b hb
    obtain hb | hb := List.mem_append.mp hb
    · exact hdecoded b hb
    · obtain ⟨url,hurl,past,body,hbody,rfl⟩ := hnew b hb
      exact .fetched (not_le.mp hdepth) hurl hbody

end Expansion

/-! It ends -/

/-- First the depth that is left, then the length of the text. -/
def Smaller : QueuedContent → QueuedContent → Prop :=
  InvImage (Prod.Lex (· < ·) (· < ·)) (fun item => (maxSubscriptionDepth-item.depth,item.content.length))

lemma smaller_wf : WellFounded Smaller :=
  InvImage.wf _ (WellFounded.prod_lex Nat.lt_wfRel.wf Nat.lt_wfRel.wf)

lemma Child.smaller (hshrinks : Base64Shrinks env.toLinkExternals) {item b : QueuedContent} (h : Child env item b) :
    Smaller b item := by
  cases h with
  | decoded hdecoded => exact .right _ (decodeBase64Subscription_length hshrinks hdecoded)
  | fetched hshallow _ _ => exact .left _ _ (Nat.sub_succ_lt_self _ _ hshallow)

lemma takesFirst (hshrinks : Base64Shrinks env.toLinkExternals) :
    TakesFirst (Expansion.step env) Expansion.queue Smaller := by
  intro s item rest h
  obtain ⟨new,-,hqueue,-,hnew,-⟩ := Expansion.step_cases h
  exact ⟨new,hqueue,fun b hb => (hnew b hb).smaller hshrinks⟩

/-! And requests only what it may -/

/-- What holds of everything in the queue. -/
structure QueuedContent.Good (env : SourceExternals) (file source : Str) (item : QueuedContent) : Prop where
  depth : item.depth=item.via.length
  reached : Reached env file item.via item.content
  own : item.allowSubscriptions = true → item = .localFile file source

structure Expansion.Good (env : SourceExternals) (file source : Str) (s : Expansion) : Prop where
  queue : ∀ item ∈ s.queue, item.Good env file source
  requests : ∀ request ∈ s.requests, request.item.via.length < maxSubscriptionDepth ∧ request.Allowed env file source

lemma Child.good {file source : Str} {item b : QueuedContent} (h : Child env item b) (hitem : item.Good env file source) :
    b.Good env file source := by
  cases h with
  | decoded hdecoded => exact ⟨hitem.depth,hitem.reached.decoded hdecoded,Bool.noConfusion⟩
  | fetched hshallow hnamed hbody =>
    refine ⟨congrArg (·+1) hitem.depth,.body hitem.reached ?_ hbody,Bool.noConfusion⟩
    refine (mem_subscriptionUrls hnamed).imp_right fun hown => ?_
    have heq := hitem.own hown.1
    rw [heq] at hown
    exact ⟨congrArg QueuedContent.content heq,congrArg QueuedContent.via heq,hown.2⟩

lemma Expansion.Good.step {file source : Str} {s : Expansion} (h : s.Good env file source) :
    (Expansion.step env s).Good env file source := by
  cases hqueue : s.queue with
  | nil =>
    have hsame : Expansion.step env s=s := by
      unfold Expansion.step
      rw [hqueue]
    rw [hsame]
    exact h
  | cons item rest =>
    obtain ⟨new,requests,hnewQueue,hnewRequests,hnew,hnamed⟩ := Expansion.step_cases hqueue
    have hitem := h.queue item (hqueue ▸ List.mem_cons_self)
    refine ⟨fun b hb => ?_,fun request hmem => ?_⟩
    · rw [hnewQueue] at hb
      obtain hb | hb := List.mem_append.mp hb
      · exact h.queue b (hqueue ▸ List.mem_cons_of_mem _ hb)
      · exact (hnew b hb).good hitem
    · rw [hnewRequests] at hmem
      obtain hmem | hmem := List.mem_append.mp hmem
      · exact h.requests request hmem
      · obtain ⟨rfl,hdepth,hurl⟩ := hnamed request hmem
        refine ⟨hitem.depth ▸ hdepth,hitem.reached,?_⟩
        refine (mem_subscriptionUrls hurl).imp_right fun hown => ?_
        have heq := hitem.own hown.1
        rw [heq] at hown
        exact ⟨heq,hown.2⟩

/-- The queue comes to its end. Until then no more than four requests follow upon each other, and each is for a line of
the file itself or for a provider of a Clash document. -/
theorem parseContentQueue_ends (hshrinks : Base64Shrinks env.toLinkExternals) (content source : Str) :
    ∃ rounds, (parseContentQueue env content source rounds).queue=[] ∧
      ∀ request ∈ (parseContentQueue env content source rounds).requests,
        (request.url::request.item.via).length ≤ maxSubscriptionDepth ∧ request.Allowed env content source := by
  obtain ⟨rounds,hempty⟩ := (takesFirst hshrinks).ends smaller_wf (.start content source)
  have hstart : (Expansion.start content source).Good env content source := by
    refine ⟨fun item hitem => ?_,by simp [Expansion.start]⟩
    rw [List.mem_singleton.mp hitem]
    exact ⟨rfl,.file,fun _ => rfl⟩
  have hgood : ((Expansion.step env)^[rounds] (.start content source)).Good env content source :=
    Function.Iterate.rec (Expansion.Good env content source) hstart (fun _ h => h.step) rounds
  exact ⟨rounds,hempty,fun request hmem => hgood.requests request hmem⟩

end

/-- Every subscription answers with its own URL. -/
def echoExternals : SourceExternals where
  toLinkExternals := CredentialLink.credentialExternals
  yamlFromStr _ := none
  fetchSubscription _ url := some url

lemma echoExternals_shrinks : Base64Shrinks echoExternals.toLinkExternals := by
  unfold echoExternals
  dsimp only
  exact CredentialLink.credentialExternals_decode.shrinks

theorem echo_ends : ∃ rounds,
    (parseContentQueue echoExternals "https://example.com/".toList "proxies.txt".toList rounds).queue=[] ∧
    ∀ request ∈ (parseContentQueue echoExternals "https://example.com/".toList "proxies.txt".toList rounds).requests,
      (request.url::request.item.via).length ≤ maxSubscriptionDepth ∧
        request.Allowed echoExternals "https://example.com/".toList "proxies.txt".toList :=
  parseContentQueue_ends echoExternals_shrinks _ _

end RotatorProxy.Link
