import SupportPilot.Webhooks.Transport

/-!
# Outbound destinations

Every connection of an attempt goes to the first address of a resolution of that attempt all of
whose addresses were judged safe. Such an address is unicast and global, unless it is a NAT64
address: the address that is embedded in it is never looked at.
-/

namespace SupportPilot.Webhooks

open Library

/-! ## Routable addresses -/

/-- The well-known prefix of NAT64. -/
def nat64Network : IPNetwork 128 := ⟨0x0064ff9b000000000000000000000000#128, 96⟩

/-- The IPv4 destination that is embedded in an address. -/
def embedded (a : BitVec 128) : Option (BitVec 32) :=
  if mappedNetwork.contains a || nat64Network.contains a then some (a.setWidth 32) else none

section Routable

variable (t : AddressTables)

def Routable4 (a : BitVec 32) : Prop :=
  multicast4.contains a = false ∧ isGlobal4 t a = true

/-- The destination is unicast and globally routable. -/
def Routable : IPAddress → Prop
  | .v4 a => Routable4 t a
  | .v6 a =>
    match embedded a with
    | some b => Routable4 t b
    | none => multicast6.contains a = false ∧ deprecatedSiteLocal6.contains a = false ∧
        isGlobal6 t a = true

/-- A NAT64 address for a destination that is itself blocked. -/
def hidesBlocked : IPAddress → Bool
  | .v4 _ => false
  | .v6 a => nat64Network.contains a && isBlocked4 t (a.setWidth 32)

end Routable

variable {t : AddressTables} {a : IPAddress}

theorem isBlocked4_eq_false {a : BitVec 32} : isBlocked4 t a = false ↔ Routable4 t a := by
  unfold isBlocked4 Routable4
  rw [Bool.or_eq_false_iff, Bool.not_eq_false']

/-- An address that is judged safe is routable, unless it hides one that is not. -/
theorem routable_iff (hsafe : isBlockedAddress t a = false) :
    Routable t a ↔ hidesBlocked t a = false := by
  cases a with
  | v4 a => exact ⟨fun _ => rfl, fun _ => isBlocked4_eq_false.mp hsafe⟩
  | v6 a =>
    simp only [isBlockedAddress, ipv4Mapped] at hsafe
    simp only [Routable, hidesBlocked, embedded]
    cases hmapped : mappedNetwork.contains a with
    | true =>
      have hembedded : isBlocked4 t (a.setWidth 32) = false := by
        rw [hmapped] at hsafe
        exact hsafe
      rw [hembedded, Bool.and_false]
      exact ⟨fun _ => rfl, fun _ => isBlocked4_eq_false.mp hembedded⟩
    | false =>
      cases hnat : nat64Network.contains a with
      | true => exact isBlocked4_eq_false.symm
      | false =>
        simp only [hmapped, Bool.false_eq_true, if_false, Bool.or_eq_false_iff,
          Bool.not_eq_false'] at hsafe
        exact ⟨fun _ => rfl, fun _ => ⟨hsafe.1.1, hsafe.1.2, hsafe.2⟩⟩

/-! ## Attempts -/

variable {lib : Stdlib} {settings : WebhookSettings} {events : List NetworkEvent}

theorem approve_ok {answer : Answer} {ip : String} (h : approve lib answer = .ok ip) :
    ∃ entries first rest, answer = .results entries ∧
      readAddresses lib entries = some (first :: rest) ∧
      (∀ a ∈ first :: rest, isBlockedAddress lib.tables a = false) ∧ ip = lib.str first := by
  unfold approve at h
  cases answer with
  | gaierror | failure => cases h
  | results entries =>
    simp only at h
    split at h
    · cases h
    · cases h
    · rename_i first rest hread
      split at h
      · cases h
      · rename_i hsafe
        cases h
        refine ⟨entries, first, rest, rfl, hread, fun a ha => ?_, rfl⟩
        by_contra hblocked
        exact hsafe (List.any_eq_true.mpr ⟨a, ha, by simpa using hblocked⟩)

/-- The address that a resolution is approved with, if it is. -/
def approved (lib : Stdlib) : Answer → Option IPAddress
  | .results entries =>
    match readAddresses lib entries with
    | some (first :: rest) =>
      if (first :: rest).any (isBlockedAddress lib.tables) then none else some first
    | _ => none
  | _ => none

theorem approved_of_ok {answer : Answer} {ip : String} (h : approve lib answer = .ok ip) :
    ∃ first, approved lib answer = some first ∧ ip = lib.str first := by
  obtain ⟨entries, first, rest, rfl, hread, hsafe, rfl⟩ := approve_ok h
  refine ⟨first, ?_, rfl⟩
  have hnone : (first :: rest).any (isBlockedAddress lib.tables) = false := by
    rw [List.any_eq_false]
    exact fun a ha => by simp [hsafe a ha]
  simp only [approved, hread, hnone, Bool.false_eq_true, if_false]

/-- No connection is opened. -/
def Silent (events : List NetworkEvent) : Prop := ∀ ip port, .opened ip port ∉ events

theorem Silent.append {later : List NetworkEvent} (h : Silent events) (h' : Silent later) :
    Silent (events ++ later) := by
  intro ip port hmem
  rcases List.mem_append.mp hmem with hmem | hmem
  · exact h ip port hmem
  · exact h' ip port hmem

theorem silent_resolved (hostname : String) (port : Nat) (answer : Answer) :
    Silent [.resolved hostname port answer] := by
  intro ip port' hmem
  cases List.mem_singleton.mp hmem

/-- What a resolution does, and what it is approved with. -/
inductive Resolution (lib : Stdlib) (port : Nat) (answer : Answer) :
    List NetworkEvent × Except DestinationError String → Prop
  | refused {events : List NetworkEvent} {error : DestinationError} :
      Silent events → Resolution lib port answer (events, .error error)
  | approved {hostname ip : String} : approve lib answer = .ok ip →
      Resolution lib port answer ([.resolved hostname port answer], .ok ip)

theorem resolution_of_approve (hostname : String) (port : Nat) (answer : Answer) :
    Resolution lib port answer ([.resolved hostname port answer], approve lib answer) := by
  cases happrove : approve lib answer with
  | error error => exact .refused (silent_resolved hostname port answer)
  | ok ip => exact .approved happrove

theorem resolveAndValidate_resolution (hostname : String) (port : Nat) (answer : Answer) :
    Resolution lib port answer (resolveAndValidate lib hostname port answer) := by
  unfold resolveAndValidate
  simp only
  split
  · exact .refused fun _ _ => List.not_mem_nil
  · exact resolution_of_approve _ port answer

theorem validateOutboundHost_resolution (hostname : Option String) (port : Nat) (answer : Answer) :
    Resolution lib port answer (validateOutboundHost lib hostname port answer) := by
  unfold validateOutboundHost
  cases hostname with
  | none => exact .refused fun _ _ => List.not_mem_nil
  | some hostname =>
    simp only
    split_ifs
    · exact .refused fun _ _ => List.not_mem_nil
    · exact .refused fun _ _ => List.not_mem_nil
    · exact resolution_of_approve _ port answer

/-- What an attempt does on the network: it resolves, and if the last resolution is approved, it
may connect to the approved address. -/
inductive Shape (lib : Stdlib) (answer : Answer) : List NetworkEvent → Prop
  | silent {events : List NetworkEvent} : Silent events → Shape lib answer events
  | pinned {before : List NetworkEvent} {hostname : String} {port : Nat} {ip : String} :
      Silent before → approve lib answer = .ok ip →
      Shape lib answer (before ++ [.resolved hostname port answer, .opened ip port])

theorem webhook_shape (endpoint : WebhookEndpoint) (answer : Answer) (reply : Reply)
    (elsewhere : List NetworkEvent) :
    Shape lib answer
      (handleWebhookDeliveryAttempt lib settings endpoint answer reply elsewhere).1 := by
  unfold handleWebhookDeliveryAttempt
  split_ifs
  · exact .silent fun _ _ => List.not_mem_nil
  · exact .silent fun _ _ => List.not_mem_nil
  · cases parseWebhookUrl lib settings endpoint.url with
    | none => exact .silent fun _ _ => List.not_mem_nil
    | some parsed =>
      have hresolution : Resolution lib parsed.port answer
          (resolveAndValidate lib parsed.hostname parsed.port answer) :=
        resolveAndValidate_resolution _ _ _
      simp only
      generalize resolveAndValidate lib parsed.hostname parsed.port answer = resolution
        at hresolution ⊢
      cases hresolution with
      | refused hsilent => exact .silent hsilent
      | approved happrove =>
        show Shape lib answer ([] ++ _)
        exact .pinned (fun _ _ => List.not_mem_nil) happrove

theorem openConnection_shape {backend : SmtpBackend} {answer : Answer} {connects : Bool}
    {unpinned before : List NetworkEvent} (hssl : backend.useSsl = false)
    (hbefore : Silent before) :
    Shape lib answer (before ++ (backend.openConnection lib answer connects unpinned).2.1) := by
  unfold SmtpBackend.openConnection
  split
  · rw [List.append_nil]
    exact .silent hbefore
  · have hresolution : Resolution lib backend.port answer
        (validateOutboundHost lib backend.host backend.port answer) :=
      validateOutboundHost_resolution _ _ _
    rw [hssl]
    generalize validateOutboundHost lib backend.host backend.port answer = resolution
      at hresolution ⊢
    cases hresolution with
    | refused hsilent => exact .silent (hbefore.append hsilent)
    | approved happrove =>
      cases connects with
      | true => exact .pinned hbefore happrove
      | false => exact .pinned hbefore happrove

/-- A backend that was opened is not opened again. -/
theorem openConnection_again {backend backend' : SmtpBackend} {answer again : Answer}
    {connects new : Bool} {unpinned opening : List NetworkEvent}
    (h : backend.openConnection lib answer connects unpinned = (backend', opening, .ok new)) :
    (backend'.openConnection lib again connects unpinned).2.1 = [] := by
  have hconnected : backend'.connected = true := by
    unfold SmtpBackend.openConnection at h
    split at h
    · rename_i hyes
      cases h
      exact hyes
    · split at h
      · cases h
        rfl
      · split at h
        · cases h
        · split at h
          · cases h
            rfl
          · cases h
  unfold SmtpBackend.openConnection
  rw [if_pos hconnected]

theorem smtpProbe_shape (host : Option String) (port : Nat) (advisory pinned : Answer)
    (connects : Bool) (unpinned : List NetworkEvent) :
    Shape lib pinned (smtpProbe lib host port advisory pinned connects unpinned) := by
  unfold smtpProbe
  have hadvisory : Resolution lib port advisory (validateOutboundHost lib host port advisory) :=
    validateOutboundHost_resolution _ _ _
  generalize validateOutboundHost lib host port advisory = resolution at hadvisory ⊢
  cases hadvisory with
  | refused hsilent => exact .silent hsilent
  | approved => exact openConnection_shape rfl (silent_resolved _ port advisory)

theorem smtpSend_shape (sender : Bool) (host : Option String) (port : Nat)
    (advisory pinned again : Answer) (connects : Bool) (unpinned : List NetworkEvent) :
    Shape lib pinned
      (smtpSend lib sender host port advisory pinned again connects unpinned) := by
  unfold smtpSend
  split
  · exact .silent fun _ _ => List.not_mem_nil
  · have hadvisory : Resolution lib port advisory (validateOutboundHost lib host port advisory) :=
      validateOutboundHost_resolution _ _ _
    generalize validateOutboundHost lib host port advisory = resolution at hadvisory ⊢
    cases hadvisory with
    | refused hsilent => exact .silent hsilent
    | @approved hostname ip =>
      let backend : SmtpBackend := { host, port, useSsl := emailUseSsl }
      have hshape : Shape lib pinned ([.resolved hostname port advisory] ++
          (backend.openConnection lib pinned connects unpinned).2.1) :=
        openConnection_shape rfl (silent_resolved hostname port advisory)
      simp only
      split
      · rename_i hopening
        rw [hopening] at hshape
        exact hshape
      · rename_i hopening
        rw [hopening] at hshape
        rw [openConnection_again hopening, List.append_nil]
        exact hshape

/-- The answer that an attempt connects by. -/
def Attempt.pinnedAnswer : Attempt → Answer
  | webhook _ answer .. => answer
  | probe _ _ _ pinned .. => pinned
  | send _ _ _ _ pinned .. => pinned

theorem Attempt.shape (endpoints : List WebhookEndpoint) (attempt : Attempt) :
    Shape lib attempt.pinnedAnswer (attempt.events lib settings endpoints) := by
  cases attempt with
  | webhook k answer reply elsewhere =>
    simp only [Attempt.events]
    cases endpoints[k]? with
    | none => exact .silent fun _ _ => List.not_mem_nil
    | some endpoint => exact webhook_shape endpoint answer reply elsewhere
  | probe host port advisory pinned connects unpinned =>
    exact smtpProbe_shape host port advisory pinned connects unpinned
  | send sender host port advisory pinned again connects unpinned =>
    exact smtpSend_shape sender host port advisory pinned again connects unpinned

/-! ## Safe connections -/

/-- The one connection of an attempt follows, as its last event, a resolution all of whose addresses
were judged safe, and goes to one of them, which is unicast and globally routable. -/
structure SafeConnection (lib : Stdlib) (events : List NetworkEvent) (ip : String) (port : Nat)
    (before : List NetworkEvent) (hostname : String) (entries : List AddrInfo)
    (addresses : List IPAddress) (target : IPAddress) : Prop where
  last : events = before ++ [.resolved hostname port (.results entries), .opened ip port]
  only : Silent before
  read : readAddresses lib entries = some addresses
  safe : ∀ a ∈ addresses, isBlockedAddress lib.tables a = false
  target_mem : target ∈ addresses
  target_ip : lib.ipAddress ip = some target
  routable : Routable lib.tables target

/-- Every connection of the attempt is safe. -/
def OnlySafe (lib : Stdlib) (events : List NetworkEvent) : Prop :=
  ∀ ip port, .opened ip port ∈ events → ∃ before hostname entries addresses target,
    SafeConnection lib events ip port before hostname entries addresses target

theorem Silent.onlySafe (h : Silent events) : OnlySafe lib events :=
  fun ip port hmem => absurd hmem (h ip port)

/-- An attempt that connects is safe exactly if the approved address hides no blocked one. -/
theorem onlySafe_pinned_iff (hliteral : lib.Literal) {before : List NetworkEvent}
    {hostname ip : String} {port : Nat} {answer : Answer} {first : IPAddress}
    (hbefore : Silent before) (happrove : approve lib answer = .ok ip)
    (hfirst : approved lib answer = some first) :
    OnlySafe lib (before ++ [.resolved hostname port answer, .opened ip port]) ↔
      hidesBlocked lib.tables first = false := by
  obtain ⟨entries, first', rest, rfl, hread, hsafe, rfl⟩ := approve_ok happrove
  obtain ⟨first'', hfirst'', hstr⟩ := approved_of_ok happrove
  have hsame : first' = first := by
    rw [hfirst] at hfirst''
    cases hfirst''
    have hread' := congrArg lib.ipAddress hstr
    rw [hliteral, hliteral] at hread'
    exact Option.some.inj hread'
  subst hsame
  rw [← routable_iff (hsafe first' List.mem_cons_self)]
  constructor
  · intro honly
    obtain ⟨before', hostname', entries', addresses, target, hconnection⟩ :=
      honly (lib.str first') port (by simp)
    have htarget := hconnection.target_ip
    rw [hliteral first'] at htarget
    cases htarget
    exact hconnection.routable
  · intro hroutable ip' port' hmem
    have hip : ip' = lib.str first' ∧ port' = port := by
      rcases List.mem_append.mp hmem with hold | hnew
      · exact absurd hold (hbefore ip' port')
      · simpa using hnew
    obtain ⟨rfl, rfl⟩ := hip
    exact ⟨before, hostname, entries, first' :: rest, first', rfl, hbefore, hread, hsafe,
      List.mem_cons_self, hliteral first', hroutable⟩

/-- The answer that an attempt connects by does not begin, all its addresses judged safe, with a
NAT64 address for a blocked destination. -/
def Unhidden (lib : Stdlib) (attempt : Attempt) : Bool :=
  (approved lib attempt.pinnedAnswer).all fun first => !hidesBlocked lib.tables first

theorem Attempt.onlySafe (hliteral : lib.Literal) {attempt : Attempt}
    (hunhidden : Unhidden lib attempt = true) (endpoints : List WebhookEndpoint) :
    OnlySafe lib (attempt.events lib settings endpoints) := by
  have hshape : Shape lib attempt.pinnedAnswer (attempt.events lib settings endpoints) :=
    attempt.shape endpoints
  unfold Unhidden at hunhidden
  generalize attempt.events lib settings endpoints = events at hshape ⊢
  generalize attempt.pinnedAnswer = answer at hshape hunhidden
  cases hshape with
  | silent hsilent => exact hsilent.onlySafe
  | pinned hbefore happrove =>
    obtain ⟨first, hfirst, -⟩ := approved_of_ok happrove
    rw [hfirst, Option.all_some, Bool.not_eq_true'] at hunhidden
    exact (onlySafe_pinned_iff hliteral hbefore happrove hfirst).mpr hunhidden

/-! ## Main result -/

/-- What a run keeps to: the attempts connect by answers that hide no blocked destination. -/
def AllUnhidden (lib : Stdlib) : OutboundLabel → Bool
  | .attempt attempt => Unhidden lib attempt
  | _ => true

/-- Whatever is configured and whatever the resolver answers, every attempt opens safe connections
only. -/
theorem outbound_destinations (hliteral : lib.Literal) {s : OutboundState}
    (h : (outbound lib settings).Reach (fun _ l => AllUnhidden lib l = true) s) :
    ∀ events ∈ s.log, OnlySafe lib events := by
  refine System.Reach.invariant (I := fun s => ∀ events ∈ s.log, OnlySafe lib events) ?_ ?_ h
  · rintro s rfl
    exact fun _ hmem => absurd hmem List.not_mem_nil
  · intro s l s' _ hs hp hstep
    have hout : outboundStep lib settings l s = some s' := hstep
    cases l with
    | createEndpoint url answer | updateEndpoint k url answer =>
      simp only [outboundStep] at hout
      split at hout
      · cases hout
        exact hs
      · cases hout
    | setStatus k active =>
      cases hout
      exact hs
    | attempt attempt =>
      cases hout
      exact List.forall_mem_cons.mpr ⟨Attempt.onlySafe hliteral hp s.endpoints, hs⟩

/-! ## Two attempts -/

/-- The registries of Python 3.11. -/
def python311 : AddressTables where
  shared4 := [⟨0x64400000#32, 10⟩]
  private4 :=
    [⟨0x00000000#32, 8⟩, ⟨0x0a000000#32, 8⟩, ⟨0x7f000000#32, 8⟩, ⟨0xa9fe0000#32, 16⟩,
      ⟨0xac100000#32, 12⟩, ⟨0xc0000000#32, 24⟩, ⟨0xc00000aa#32, 31⟩, ⟨0xc0000200#32, 24⟩,
      ⟨0xc0a80000#32, 16⟩, ⟨0xc6120000#32, 15⟩, ⟨0xc6336400#32, 24⟩, ⟨0xcb007100#32, 24⟩,
      ⟨0xf0000000#32, 4⟩, ⟨0xffffffff#32, 32⟩]
  exceptions4 := [⟨0xc0000009#32, 32⟩, ⟨0xc000000a#32, 32⟩]
  private6 :=
    [⟨0x00000000000000000000000000000001#128, 128⟩, ⟨0x00000000000000000000000000000000#128, 128⟩,
      ⟨0x00000000000000000000ffff00000000#128, 96⟩, ⟨0x0064ff9b000100000000000000000000#128, 48⟩,
      ⟨0x01000000000000000000000000000000#128, 64⟩, ⟨0x20010000000000000000000000000000#128, 23⟩,
      ⟨0x20010db8000000000000000000000000#128, 32⟩, ⟨0x20020000000000000000000000000000#128, 16⟩,
      ⟨0xfc000000000000000000000000000000#128, 7⟩, ⟨0xfe800000000000000000000000000000#128, 10⟩]
  exceptions6 :=
    [⟨0x20010001000000000000000000000001#128, 128⟩, ⟨0x20010001000000000000000000000002#128, 128⟩,
      ⟨0x20010003000000000000000000000000#128, 32⟩, ⟨0x20010004011200000000000000000000#128, 48⟩,
      ⟨0x20010020000000000000000000000000#128, 28⟩, ⟨0x20010030000000000000000000000000#128, 28⟩]

/-- The metadata service of a cloud, 169.254.169.254, as a NAT64 address. -/
def metadataNat64 : IPAddress := .v6 0x0064ff9b0000000000000000a9fea9fe#128

def publicResolver : IPAddress := .v4 0x08080808#32

/-- Texts of addresses: the two above as they are written, any other by its number. -/
def sampleStr (a : IPAddress) : String :=
  if a = publicResolver then "8.8.8.8"
  else if a = metadataNat64 then "64:ff9b::a9fe:a9fe"
  else match a with
    | .v4 a => String.ofList ('4' :: List.replicate a.toNat 'x')
    | .v6 a => String.ofList ('6' :: List.replicate a.toNat 'x')

def sampleAddress (text : String) : Option IPAddress :=
  if text = "8.8.8.8" then some publicResolver
  else if text = "64:ff9b::a9fe:a9fe" then some metadataNat64
  else match text.toList with
    | '4' :: rest => some (.v4 (BitVec.ofNat 32 rest.length))
    | '6' :: rest => some (.v6 (BitVec.ofNat 128 rest.length))
    | _ => none

def hookUrl : String := "https://hooks.example.com/x"

def sampleLib : Stdlib where
  tables := python311
  ipAddress := sampleAddress
  str := sampleStr
  strip := id
  lower := id
  urlsplit url :=
    if url = hookUrl then
      some { scheme := "https", hostname := some "hooks.example.com", path := "/x" }
    else none

theorem numbered_ne {c : Char} {n : Nat} {text : String}
    (h : ∃ d ∈ text.toList.drop 1, d ≠ 'x') :
    String.ofList (c :: List.replicate n 'x') ≠ text := by
  rintro rfl
  obtain ⟨d, hd, hne⟩ := h
  rw [String.toList_ofList] at hd
  exact hne (List.eq_of_mem_replicate hd)

theorem sampleLib_literal : sampleLib.Literal := by
  intro a
  show sampleAddress (sampleStr a) = some a
  unfold sampleStr
  split
  · rename_i heq
    rw [heq]
    rfl
  · split
    · rename_i heq
      rw [heq]
      rfl
    · cases a with
      | v4 a =>
        unfold sampleAddress
        rw [if_neg (numbered_ne ⟨'.', by decide, by decide⟩),
          if_neg (numbered_ne ⟨'f', by decide, by decide⟩), String.toList_ofList]
        simp
      | v6 a =>
        unfold sampleAddress
        rw [if_neg (numbered_ne ⟨'.', by decide, by decide⟩),
          if_neg (numbered_ne ⟨'f', by decide, by decide⟩), String.toList_ofList]
        simp

/-- One entry of a resolver for an address of this text. -/
def answerOf (inet6 : Bool) (text : String) : Answer := .results [⟨inet6, text⟩]

/-- An endpoint is created with a public address, and a delivery is answered by this address. -/
def deliveredTo (answer : Answer) (reply : Reply) : List OutboundLabel :=
  [.createEndpoint hookUrl (answerOf false "8.8.8.8"), .attempt (.webhook 0 answer reply [])]

def outboundEnd (permits : OutboundState → OutboundLabel → Prop) [∀ s l, Decidable (permits s l)]
    (labels : List OutboundLabel) : OutboundState :=
  (outbound sampleLib {}).replayEnd permits labels ⟨[], []⟩

theorem reaches_outboundEnd (permits : OutboundState → OutboundLabel → Prop)
    [∀ s l, Decidable (permits s l)] (labels : List OutboundLabel) :
    (outbound sampleLib {}).Reach permits (outboundEnd permits labels) :=
  System.reach_replayEnd (.init rfl) labels

theorem outbound_destinations_delivered :
    let s := outboundEnd (fun _ l => AllUnhidden sampleLib l = true)
      (deliveredTo (answerOf false "8.8.8.8") (.status 302))
    s.log = [[.resolved "hooks.example.com" 443 (answerOf false "8.8.8.8"),
      .opened "8.8.8.8" 443]] ∧ ∀ events ∈ s.log, OnlySafe sampleLib events :=
  ⟨by decide +kernel, outbound_destinations sampleLib_literal (reaches_outboundEnd _ _)⟩

/-- A delivery is sent to the NAT64 address of a metadata service. -/
theorem outbound_destinations_not_always_safe :
    ¬ ∀ (lib : Stdlib) (settings : WebhookSettings), lib.Literal →
      ∀ s, (outbound lib settings).Reach (fun _ _ => True) s →
        ∀ events ∈ s.log, OnlySafe lib events := by
  intro hsafe
  let answer := answerOf true "64:ff9b::a9fe:a9fe"
  let s := outboundEnd (fun _ _ => True) (deliveredTo answer (.status 200))
  have hlog : s.log = [[] ++ [.resolved "hooks.example.com" 443 answer,
      .opened "64:ff9b::a9fe:a9fe" 443]] := by decide +kernel
  have honly := hsafe sampleLib {} sampleLib_literal s (reaches_outboundEnd _ _) _
    (by rw [hlog]; exact List.mem_singleton.mpr rfl)
  have hhidden := (onlySafe_pinned_iff sampleLib_literal (fun _ _ => List.not_mem_nil)
    (by decide +kernel : approve sampleLib answer = .ok "64:ff9b::a9fe:a9fe")
    (by decide +kernel : approved sampleLib answer = some metadataNat64)).mp honly
  revert hhidden
  decide +kernel

end SupportPilot.Webhooks
