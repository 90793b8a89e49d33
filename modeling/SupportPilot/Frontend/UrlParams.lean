import Mathlib.Data.List.DropRight
import SupportPilot.Library.Integers
import SupportPilot.Library.UrlEncoded

/-!
# The state of lists in their URLs

The pages, filters and searches of a list are written into the query of its URL and read back from
there, where anything may stand. A filter is a word of its list, or `none` for "all".
-/

namespace SupportPilot.Frontend.UrlParams

open Library

/-! ## Single parameters -/

/-- `Number.MAX_SAFE_INTEGER` -/
def maxSafeInteger : Nat := 2 ^ 53 - 1

structure Page where
  number : Nat
  positive : 0 < number
  safe : number ≤ maxSafeInteger
  deriving DecidableEq

def firstPage : Page := ⟨1, by decide, by decide⟩

/-- `/^[1-9]\d*$/` -/
def isPageText (text : List Char) : Bool := text.all Char.isDigit && text.head?.any (· ≠ '0')

def parsePage (raw : Option String) (fallback : Page) : Page :=
  match raw with
  | none => fallback
  | some text =>
    if isPageText text.toList = false then fallback
    else
      let page := Nat.ofDigitChars 10 text.toList 0
      if h : 0 < page ∧ page ≤ maxSafeInteger then ⟨page, h.1, h.2⟩ else fallback

/-- The first page is not written. -/
def pageValue (page : Page) : Option String :=
  if 1 < page.number then some (.ofList (Nat.toDigits 10 page.number)) else none

abbrev Filter (valid : List String) := Option { word : String // word ∈ valid }

def parseFilter (valid : List String) (raw : Option String) : Filter valid :=
  raw.bind fun word => if h : word ∈ valid then some ⟨word, h⟩ else none

def filterValue {valid : List String} (filter : Filter valid) : Option String :=
  filter.map Subtype.val

def isHexDigit (c : Char) : Bool := c.isDigit || 'a' ≤ c && c ≤ 'f' || 'A' ≤ c && c ≤ 'F'

/-- `UUID_PATTERN` -/
def isUuid (text : String) : Bool :=
  let groups := text.toList.splitOn '-'
  groups.map List.length = [8, 4, 4, 4, 12] && groups.all fun group => group.all isHexDigit

abbrev UuidFilter := Option { text : String // isUuid text = true }

def parseUuid (raw : Option String) : UuidFilter :=
  raw.bind fun text => if h : isUuid text = true then some ⟨text, h⟩ else none

def uuidValue (id : UuidFilter) : Option String := id.map Subtype.val

/-! ## Queries -/

/-- `search.set`, for a parameter that is not at its default. -/
def setSome (search : SearchParams) (name : String) : Option String → SearchParams
  | some value => search.set name value
  | none => search

/-- The query behind a path, with its question mark; without parameters there is none. -/
def queryString (search : SearchParams) : List UInt8 :=
  if search.serialize = [] then [] else 63 :: search.serialize

/-- The parameters of the page that is opened at a query. -/
def openQuery (malformed : List UInt8 → String) : List UInt8 → SearchParams
  | 63 :: query => .parse malformed query
  | query => .parse malformed query

/-! ## Lists with a page and one filter -/

structure StatusListParams (valid : List String) where
  page : Page
  status : Filter valid

def parseStatusList (pageName statusName : String) (valid : List String) (search : SearchParams) :
    StatusListParams valid where
  page := parsePage (search.get pageName) firstPage
  status := parseFilter valid (search.get statusName)

def setStatusList {valid : List String} (search : SearchParams) (pageName statusName : String)
    (params : StatusListParams valid) : SearchParams :=
  setSome (setSome search pageName (pageValue params.page)) statusName (filterValue params.status)

def handoffStatuses : List String := ["pending", "assigned", "resolved", "cancelled"]

def parseHandoffListParams := parseStatusList "page" "status" handoffStatuses

def buildHandoffListQueryString (params : StatusListParams handoffStatuses) : List UInt8 :=
  queryString (setStatusList [] "page" "status" params)

def agentRunStatuses : List String :=
  ["pending", "running", "succeeded", "failed", "cancelled", "budget_exceeded",
    "waiting_for_approval", "handed_off"]

def parseAgentRunListParams := parseStatusList "page" "status" agentRunStatuses

def buildAgentRunListQueryString (params : StatusListParams agentRunStatuses) : List UInt8 :=
  queryString (setStatusList [] "page" "status" params)

/-- `VALID_RUN_STATUSES` -/
def evaluationRunStatuses : List String :=
  ["pending", "running", "succeeded", "partial", "failed", "cancelled"]

def parseEvaluationRunListParams := parseStatusList "page" "status" evaluationRunStatuses

def buildEvaluationRunListQueryString (params : StatusListParams evaluationRunStatuses) :
    List UInt8 :=
  queryString (setStatusList [] "page" "status" params)

/-- `VALID_PASSED_FILTERS` -/
def passedFilters : List String := ["passed", "failed"]

def parseEvaluationResultListParams := parseStatusList "resultsPage" "passed" passedFilters

def buildEvaluationResultListQueryString (params : StatusListParams passedFilters) : List UInt8 :=
  queryString (setStatusList [] "resultsPage" "passed" params)

/-- `VALID_DATASET_STATUSES` -/
def datasetStatuses : List String := ["draft", "active", "archived"]

def parseEvaluationDatasetListParams := parseStatusList "page" "status" datasetStatuses

def buildEvaluationDatasetListQueryString (params : StatusListParams datasetStatuses) :
    List UInt8 :=
  queryString (setStatusList (SearchParams.set [] "tab" "datasets") "page" "status" params)

/-- `VALID_CASE_STATUSES` -/
def caseStatuses : List String := ["active", "disabled"]

def parseEvaluationCaseListParams := parseStatusList "casePage" "caseStatus" caseStatuses

def buildEvaluationCaseListQueryString (params : StatusListParams caseStatuses) : List UInt8 :=
  queryString (setStatusList [] "casePage" "caseStatus" params)

/-! ## Approvals -/

def approvalStatuses : List String := ["pending", "approved", "rejected", "expired", "cancelled"]

def pendingApprovals : Filter approvalStatuses := some ⟨"pending", List.mem_cons_self⟩

/-- Without a status the list shows what is pending. -/
def parseApprovalListParams (search : SearchParams) : StatusListParams approvalStatuses where
  page := parsePage (search.get "page") firstPage
  status :=
    if (search.get "status").isSome then parseFilter approvalStatuses (search.get "status")
    else pendingApprovals

def approvalValue (status : Filter approvalStatuses) : Option String :=
  if status = pendingApprovals then none else some ((filterValue status).getD "all")

def buildApprovalListQueryString (params : StatusListParams approvalStatuses) : List UInt8 :=
  queryString (setSome (setSome [] "page" (pageValue params.page)) "status"
    (approvalValue params.status))

/-! ## Lists with a page only -/

def parsePageOnly (search : SearchParams) : Page := parsePage (search.get "page") firstPage

def parseIntegrationConnectionListParams := parsePageOnly

def buildIntegrationConnectionListQueryString (page : Page) : List UInt8 :=
  queryString (setSome [] "page" (pageValue page))

def parseWebhookEndpointListParams := parsePageOnly

def buildWebhookEndpointListQueryString (page : Page) : List UInt8 :=
  queryString (setSome (SearchParams.set [] "tab" "webhooks") "page" (pageValue page))

def parseWebhookDeliveryListParams := parsePageOnly

def buildWebhookDeliveryListQueryString (page : Page) : List UInt8 :=
  queryString (setSome (SearchParams.set [] "tab" "deliveries") "page" (pageValue page))

def parseWorkspaceMemberListParams := parsePageOnly

def buildWorkspaceMemberListQueryString (page : Page) : List UInt8 :=
  queryString (setSome [] "page" (pageValue page))

/-! ## Lists with several filters -/

def conversationStatuses : List String := ["open", "pending", "closed"]

def channels : List String := ["web", "chat", "email", "sms", "api"]

structure ConversationListParams where
  page : Page
  status : Filter conversationStatuses
  channel : Filter channels
  assignment : Filter ["unassigned"]
  customerId : UuidFilter

def parseConversationListParams (search : SearchParams) : ConversationListParams where
  page := parsePage (search.get "page") firstPage
  status := parseFilter conversationStatuses (search.get "status")
  channel := parseFilter channels (search.get "channel")
  assignment := parseFilter ["unassigned"] (search.get "assigned")
  customerId := parseUuid (search.get "customer")

def buildConversationListQueryString (params : ConversationListParams) : List UInt8 :=
  let search := setSome [] "page" (pageValue params.page)
  let search := setSome search "status" (filterValue params.status)
  let search := setSome search "channel" (filterValue params.channel)
  let search := setSome search "assigned" (filterValue params.assignment)
  queryString (setSome search "customer" (uuidValue params.customerId))

def ticketStatuses : List String := ["open", "in_progress", "pending", "resolved", "closed"]

def ticketPriorities : List String := ["low", "normal", "high", "urgent"]

structure TicketListParams where
  page : Page
  status : Filter ticketStatuses
  priority : Filter ticketPriorities
  customerId : UuidFilter

def parseTicketListParams (search : SearchParams) : TicketListParams where
  page := parsePage (search.get "page") firstPage
  status := parseFilter ticketStatuses (search.get "status")
  priority := parseFilter ticketPriorities (search.get "priority")
  customerId := parseUuid (search.get "customer")

def buildTicketListQueryString (params : TicketListParams) : List UInt8 :=
  let search := setSome [] "page" (pageValue params.page)
  let search := setSome search "status" (filterValue params.status)
  let search := setSome search "priority" (filterValue params.priority)
  queryString (setSome search "customer" (uuidValue params.customerId))

def documentStatuses : List String := ["pending", "queued", "processing", "ready", "failed"]

structure KnowledgeDocumentListParams where
  page : Page
  sourceId : UuidFilter
  status : Filter documentStatuses

def parseKnowledgeDocumentListParams (search : SearchParams) : KnowledgeDocumentListParams where
  page := parsePage (search.get "page") firstPage
  sourceId := parseUuid (search.get "source")
  status := parseFilter documentStatuses (search.get "status")

def buildKnowledgeDocumentListQueryString (params : KnowledgeDocumentListParams) : List UInt8 :=
  let search := setSome [] "page" (pageValue params.page)
  let search := setSome search "source" (uuidValue params.sourceId)
  queryString (setSome search "status" (filterValue params.status))

/-! ## Lists with a search -/

/-- A JavaScript string. -/
abbrev JsString := List (Fin 0x10000)

/-- White space and line terminators. -/
def isJsSpace (u : Fin 0x10000) : Bool :=
  let n := u.val
  (9 ≤ n && n ≤ 13) || n = 32 || n = 0xA0 || n = 0x1680 || (0x2000 ≤ n && n ≤ 0x200A) ||
    n = 0x2028 || n = 0x2029 || n = 0x202F || n = 0x205F || n = 0x3000 || n = 0xFEFF

def trim (text : JsString) : JsString := (text.dropWhile isJsSpace).rdropWhile isJsSpace

def isHigh (u : Fin 0x10000) : Bool := 0xD800 ≤ u.val && u.val < 0xDC00

def isLow (u : Fin 0x10000) : Bool := 0xDC00 ≤ u.val && u.val < 0xE000

def aloneChar (u : Fin 0x10000) : Char :=
  if isHigh u || isLow u then .ofNat 0xFFFD else .ofNat u.val

def pairChar (high low : Fin 0x10000) : Char :=
  .ofNat (0x10000 + (high.val - 0xD800) * 1024 + (low.val - 0xDC00))

/-- The conversion to `USVString`: a surrogate that stands alone is replaced. -/
def toUsv : JsString → List Char
  | [] => []
  | [u] => [aloneChar u]
  | u :: low :: later =>
    if isHigh u && isLow low then pairChar u low :: toUsv later
    else aloneChar u :: toUsv (low :: later)

def codeUnits (c : Char) : JsString :=
  let n := c.toNat
  if n < 0x10000 then [.ofNat _ n]
  else [.ofNat _ (0xD800 + (n - 0x10000) / 1024), .ofNat _ (0xDC00 + (n - 0x10000) % 1024)]

def ofUsv (text : List Char) : JsString := text.flatMap codeUnits

/-- A search is written without the white space around it, and not at all if nothing is left. -/
def searchValue (text : JsString) : Option String :=
  if trim text = [] then none else some (.ofList (toUsv (trim text)))

def parseSearch (raw : Option String) : JsString := ofUsv (raw.getD "").toList

/-- `MAX_SEARCH_LENGTH` -/
def maxSearchLength : Nat := 200

def customerStatuses : List String := ["active", "inactive"]

structure CustomerListParams where
  page : Page
  search : JsString
  status : Filter customerStatuses

def parseCustomerListParams (search : SearchParams) : CustomerListParams where
  page := parsePage (search.get "page") firstPage
  search := (parseSearch (search.get "search")).take maxSearchLength
  status := parseFilter customerStatuses (search.get "status")

def buildCustomerListQueryString (params : CustomerListParams) : List UInt8 :=
  let search := setSome [] "page" (pageValue params.page)
  let search := setSome search "search" (searchValue params.search)
  queryString (setSome search "status" (filterValue params.status))

structure KnowledgeSourceListParams where
  page : Page
  search : JsString
  isActive : Filter ["true", "false"]

def parseKnowledgeSourceListParams (search : SearchParams) : KnowledgeSourceListParams where
  page := parsePage (search.get "page") firstPage
  search := parseSearch (search.get "q")
  isActive := parseFilter ["true", "false"] (search.get "is_active")

def buildKnowledgeSourceListQueryString (params : KnowledgeSourceListParams) : List UInt8 :=
  let search := setSome (SearchParams.set [] "tab" "sources") "page" (pageValue params.page)
  let search := setSome search "q" (searchValue params.search)
  queryString (setSome search "is_active" (filterValue params.isActive))

/-! ## Tabs -/

inductive KnowledgeTab
  | documents
  | sources
  | search
  deriving DecidableEq, Repr

def parseKnowledgeTab (search : SearchParams) : KnowledgeTab :=
  if search.get "tab" = some "sources" then .sources
  else if search.get "tab" = some "search" then .search
  else .documents

inductive IntegrationsTab
  | connections
  | webhooks
  | deliveries
  deriving DecidableEq, Repr

def parseIntegrationsTab (search : SearchParams) : IntegrationsTab :=
  if search.get "tab" = some "webhooks" then .webhooks
  else if search.get "tab" = some "deliveries" then .deliveries
  else .connections

inductive EvaluationTab
  | runs
  | datasets
  deriving DecidableEq, Repr

def parseEvaluationTab (search : SearchParams) : EvaluationTab :=
  if search.get "tab" = some "datasets" then .datasets else .runs

/-! ## What is written is read back -/

theorem openQuery_queryString (malformed : List UInt8 → String) (search : SearchParams) :
    openQuery malformed (queryString search) = search := by
  have hread := SearchParams.parse_serialize malformed search
  unfold queryString
  split
  · rename_i hempty
    rw [hempty] at hread
    exact hread
  · exact hread

@[simp] theorem get_nil (name : String) : SearchParams.get [] name = none := rfl

@[simp] theorem get_setSome (search : SearchParams) (name : String) (value : Option String)
    (other : String) : (setSome search name value).get other =
      if other = name then value.or (search.get other) else search.get other := by
  cases value with
  | none =>
    show search.get other = _
    split <;> rfl
  | some value => exact SearchParams.get_set search name value other

theorem head_toDigits {n : Nat} (h : 0 < n) :
    (Nat.toDigits 10 n).head?.any (· ≠ '0') = true := by
  induction n using Nat.strongRecOn with
  | _ n ih =>
    by_cases hlt : n < 10
    · have hall : ∀ n : Fin 10, 0 < n.val →
          (Nat.toDigits 10 n.val).head?.any (· ≠ '0') = true := by decide
      exact hall ⟨n, hlt⟩ h
    · have hstep := ih (n / 10) (by omega) (by omega)
      rw [Nat.toDigits_of_base_le (by decide) (by omega)]
      cases hdigits : Nat.toDigits 10 (n / 10) with
      | nil =>
        rw [hdigits] at hstep
        cases hstep
      | cons c digits =>
        rw [hdigits] at hstep
        exact hstep

@[simp] theorem parsePage_pageValue (page : Page) :
    parsePage (pageValue page) firstPage = page := by
  obtain ⟨number, hpositive, hsafe⟩ := page
  unfold pageValue
  split
  · have hdigits : ∀ c ∈ Nat.toDigits 10 number, c.isDigit = true :=
      fun c hc => isDigit_of_mem hc
    have htext : isPageText (Nat.toDigits 10 number) = true := by
      rw [isPageText, Bool.and_eq_true, List.all_eq_true]
      exact ⟨hdigits, head_toDigits hpositive⟩
    have hvalue : Nat.ofDigitChars 10 (Nat.toDigits 10 number) 0 = number :=
      Nat.ofDigitChars_toDigits (by decide) (by decide)
    simp [parsePage, String.toList_ofList, htext, hvalue, hpositive, hsafe]
  · rename_i hfirst
    have hone : number = 1 := by
      simp only at hfirst
      omega
    subst hone
    rfl

@[simp] theorem parseFilter_filterValue {valid : List String} (filter : Filter valid) :
    parseFilter valid (filterValue filter) = filter := by
  cases filter with
  | none => rfl
  | some word => exact dif_pos word.property

@[simp] theorem parseUuid_uuidValue (id : UuidFilter) : parseUuid (uuidValue id) = id := by
  cases id with
  | none => rfl
  | some text => exact dif_pos text.property

theorem parse_setStatusList {valid : List String} {search : SearchParams}
    {pageName statusName : String} (hne : pageName ≠ statusName)
    (hpage : search.get pageName = none) (hstatus : search.get statusName = none)
    (params : StatusListParams valid) :
    parseStatusList pageName statusName valid (setStatusList search pageName statusName params) =
      params := by
  unfold parseStatusList setStatusList
  simp [hne, hne.symm, hpage, hstatus]

/-! ## Searches -/

theorem toNat_ofNat_valid {n : Nat} (h : n.isValidChar) : (Char.ofNat n).toNat = n := by
  unfold Char.ofNat
  rw [dif_pos h]
  rfl

theorem toNat_ofNat_le (n : Nat) : (Char.ofNat n).toNat ≤ n := by
  by_cases h : n.isValidChar
  · exact (toNat_ofNat_valid h).le
  · unfold Char.ofNat
    rw [dif_neg h]
    exact Nat.zero_le n

theorem length_aloneChar (u : Fin 0x10000) : (codeUnits (aloneChar u)).length = 1 := by
  have hsmall : (aloneChar u).toNat < 0x10000 := by
    unfold aloneChar
    split
    · decide
    · exact (toNat_ofNat_le u.val).trans_lt u.isLt
  unfold codeUnits
  rw [if_pos hsmall]
  rfl

theorem codeUnits_pairChar {high low : Fin 0x10000} (hhigh : isHigh high = true)
    (hlow : isLow low = true) : codeUnits (pairChar high low) = [high, low] := by
  simp only [isHigh, isLow, Bool.and_eq_true, decide_eq_true_eq] at hhigh hlow
  have hvalid : (0x10000 + (high.val - 0xD800) * 1024 + (low.val - 0xDC00)).isValidChar :=
    .inr ⟨by omega, by omega⟩
  have hvalue : (pairChar high low).toNat =
      0x10000 + (high.val - 0xD800) * 1024 + (low.val - 0xDC00) := toNat_ofNat_valid hvalid
  have hlarge : ¬ (pairChar high low).toNat < 0x10000 := by omega
  have hfirst : Fin.ofNat 0x10000 (0xD800 + ((pairChar high low).toNat - 0x10000) / 1024) =
      high := by
    refine Fin.ext ?_
    rw [Fin.val_ofNat]
    omega
  have hsecond : Fin.ofNat 0x10000 (0xDC00 + ((pairChar high low).toNat - 0x10000) % 1024) =
      low := by
    refine Fin.ext ?_
    rw [Fin.val_ofNat]
    omega
  unfold codeUnits
  rw [if_neg hlarge, hfirst, hsecond]

/-- The conversion replaces surrogates and keeps the length. -/
theorem length_ofUsv_toUsv (text : JsString) : (ofUsv (toUsv text)).length = text.length := by
  unfold ofUsv
  fun_induction toUsv text with
  | case1 => rfl
  | case2 u => rw [List.flatMap_singleton, length_aloneChar, List.length_singleton]
  | case3 u low later hpair ih =>
    obtain ⟨hhigh, hlow⟩ := Bool.and_eq_true_iff.mp hpair
    rw [List.flatMap_cons, List.length_append, codeUnits_pairChar hhigh hlow, ih]
    simp only [List.length_cons, List.length_nil]
    omega
  | case4 u low later hpair ih =>
    rw [List.flatMap_cons, List.length_append, length_aloneChar, ih]
    simp only [List.length_cons]
    omega

theorem trim_sublist (text : JsString) : (trim text).Sublist text :=
  ((List.rdropWhile_prefix _ _).sublist).trans (List.dropWhile_sublist _)

/-- A text without a surrogate alone: code units that are no surrogates, and pairs of a high one
and a low one. -/
inductive WellFormed : JsString → Prop
  | nil : WellFormed []
  | unit {u : Fin 0x10000} {rest : JsString} : isHigh u = false → isLow u = false →
      WellFormed rest → WellFormed (u :: rest)
  | pair {high low : Fin 0x10000} {rest : JsString} : isHigh high = true → isLow low = true →
      WellFormed rest → WellFormed (high :: low :: rest)

theorem codeUnits_aloneChar (u : Fin 0x10000) :
    codeUnits (aloneChar u) = [u] ↔ isHigh u = false ∧ isLow u = false := by
  unfold aloneChar
  by_cases hsurrogate : (isHigh u || isLow u) = true
  · rw [if_pos hsurrogate]
    constructor
    · intro hunit
      have hvalue : u = Fin.ofNat 0x10000 0xFFFD := (List.singleton_inj.mp hunit).symm
      rw [hvalue] at hsurrogate
      exact absurd hsurrogate (by decide)
    · rintro ⟨hhigh, hlow⟩
      rw [hhigh, hlow] at hsurrogate
      cases hsurrogate
  · rw [if_neg hsurrogate]
    simp only [Bool.or_eq_true, not_or, Bool.not_eq_true] at hsurrogate
    have hvalid : u.val.isValidChar := by
      simp only [isHigh, isLow, Bool.and_eq_false_iff, decide_eq_false_iff_not] at hsurrogate
      have hlt := u.isLt
      unfold Nat.isValidChar
      omega
    have hvalue : (Char.ofNat u.val).toNat = u.val := toNat_ofNat_valid hvalid
    refine iff_of_true ?_ hsurrogate
    unfold codeUnits
    rw [hvalue, if_pos u.isLt, Fin.ofNat_val_eq_self]

theorem toUsv_cons {u : Fin 0x10000} (h : isHigh u = false) (rest : JsString) :
    toUsv (u :: rest) = aloneChar u :: toUsv rest := by
  cases rest with
  | nil => rfl
  | cons low later => rw [toUsv, if_neg (by simp [h])]

/-- The conversion gives back exactly the texts without a surrogate alone. -/
theorem ofUsv_toUsv_iff (text : JsString) : ofUsv (toUsv text) = text ↔ WellFormed text := by
  constructor
  · intro h
    unfold ofUsv at h
    fun_induction toUsv text with
    | case1 => exact .nil
    | case2 u =>
      rw [List.flatMap_singleton] at h
      obtain ⟨hhigh, hlow⟩ := (codeUnits_aloneChar u).mp h
      exact .unit hhigh hlow .nil
    | case3 u low later hpair ih =>
      obtain ⟨hhigh, hlow⟩ := Bool.and_eq_true_iff.mp hpair
      rw [List.flatMap_cons, codeUnits_pairChar hhigh hlow] at h
      exact .pair hhigh hlow (ih (List.cons.inj (List.cons.inj h).2).2)
    | case4 u low later hpair ih =>
      rw [List.flatMap_cons] at h
      have hsplit : codeUnits (aloneChar u) ++ (toUsv (low :: later)).flatMap codeUnits =
          [u] ++ low :: later := h
      obtain ⟨hfirst, hrest⟩ := List.append_inj hsplit (length_aloneChar u)
      obtain ⟨hhigh, hlow⟩ := (codeUnits_aloneChar u).mp hfirst
      exact .unit hhigh hlow (ih hrest)
  · intro h
    induction h with
    | nil => rfl
    | @unit u rest hhigh hlow _ ih =>
      rw [toUsv_cons hhigh, ofUsv, List.flatMap_cons, (codeUnits_aloneChar u).mpr ⟨hhigh, hlow⟩]
      exact congrArg (u :: ·) ih
    | @pair high low rest hhigh hlow _ ih =>
      rw [toUsv, if_pos (by simp [hhigh, hlow]), ofUsv, List.flatMap_cons,
        codeUnits_pairChar hhigh hlow]
      exact congrArg (high :: low :: ·) ih

/-- No white space stands around the text, and no surrogate alone in it. -/
def Clean (text : JsString) : Prop := trim text = text ∧ WellFormed text

theorem parseSearch_searchValue (text : JsString) :
    parseSearch (searchValue text) = ofUsv (toUsv (trim text)) := by
  unfold searchValue
  split
  · rename_i hempty
    rw [hempty]
    rfl
  · rw [parseSearch, Option.getD_some, String.toList_ofList]

theorem trim_of_length {text : JsString} (h : text.length ≤ (trim text).length) :
    trim text = text :=
  (trim_sublist text).eq_of_length_le h

theorem restored_iff (text : JsString) : ofUsv (toUsv (trim text)) = text ↔ Clean text := by
  constructor
  · intro h
    have hlength := congrArg List.length h
    rw [length_ofUsv_toUsv] at hlength
    have htrim := trim_of_length hlength.ge
    rw [htrim] at h
    exact ⟨htrim, (ofUsv_toUsv_iff text).mp h⟩
  · rintro ⟨htrim, hformed⟩
    rw [htrim, (ofUsv_toUsv_iff text).mpr hformed]

theorem restored_take_iff (n : Nat) (text : JsString) :
    (ofUsv (toUsv (trim text))).take n = text ↔ Clean text ∧ text.length ≤ n := by
  rw [← restored_iff]
  constructor
  · intro h
    have hlength := congrArg List.length h
    rw [List.length_take, length_ofUsv_toUsv] at hlength
    have htrim := (trim_sublist text).length_le
    have hall : (ofUsv (toUsv (trim text))).length ≤ n := by
      rw [length_ofUsv_toUsv]
      omega
    rw [List.take_of_length_le hall] at h
    exact ⟨h, by omega⟩
  · rintro ⟨h, hlength⟩
    rw [h, List.take_of_length_le hlength]

/-! ## Main results -/

/-- How a list keeps its state in the URL, and what selects it among the tabs of its page. -/
structure UrlState where
  Params : Type
  parse : SearchParams → Params
  build : Params → List UInt8
  Selected : SearchParams → Prop := fun _ => True

inductive ListPage
  | conversations
  | tickets
  | approvals
  | handoffs
  | agentRuns
  | connections
  | endpoints
  | deliveries
  | members
  | documents
  | runs
  | results
  | datasets
  | cases
  deriving DecidableEq, Repr

def ListPage.urlState : ListPage → UrlState
  | conversations => ⟨_, parseConversationListParams, buildConversationListQueryString,
      fun _ => True⟩
  | tickets => ⟨_, parseTicketListParams, buildTicketListQueryString, fun _ => True⟩
  | approvals => ⟨_, parseApprovalListParams, buildApprovalListQueryString, fun _ => True⟩
  | handoffs => ⟨_, parseHandoffListParams, buildHandoffListQueryString, fun _ => True⟩
  | agentRuns => ⟨_, parseAgentRunListParams, buildAgentRunListQueryString, fun _ => True⟩
  | connections => ⟨_, parseIntegrationConnectionListParams,
      buildIntegrationConnectionListQueryString, (parseIntegrationsTab · = .connections)⟩
  | endpoints => ⟨_, parseWebhookEndpointListParams, buildWebhookEndpointListQueryString,
      (parseIntegrationsTab · = .webhooks)⟩
  | deliveries => ⟨_, parseWebhookDeliveryListParams, buildWebhookDeliveryListQueryString,
      (parseIntegrationsTab · = .deliveries)⟩
  | members => ⟨_, parseWorkspaceMemberListParams, buildWorkspaceMemberListQueryString,
      fun _ => True⟩
  | documents => ⟨_, parseKnowledgeDocumentListParams, buildKnowledgeDocumentListQueryString,
      (parseKnowledgeTab · = .documents)⟩
  | runs => ⟨_, parseEvaluationRunListParams, buildEvaluationRunListQueryString,
      (parseEvaluationTab · = .runs)⟩
  | results => ⟨_, parseEvaluationResultListParams, buildEvaluationResultListQueryString,
      fun _ => True⟩
  | datasets => ⟨_, parseEvaluationDatasetListParams, buildEvaluationDatasetListQueryString,
      (parseEvaluationTab · = .datasets)⟩
  | cases => ⟨_, parseEvaluationCaseListParams, buildEvaluationCaseListQueryString, fun _ => True⟩

/-- The state is what a page finds that is opened at the URL of the state, on the tab of it. -/
def UrlState.Restored (state : UrlState) (malformed : List UInt8 → String)
    (params : state.Params) : Prop :=
  state.parse (openQuery malformed (state.build params)) = params ∧
    state.Selected (openQuery malformed (state.build params))

theorem parse_approvalValue (status : Filter approvalStatuses) :
    (if (approvalValue status).isSome then parseFilter approvalStatuses (approvalValue status)
      else pendingApprovals) = status := by
  unfold approvalValue
  split
  · rename_i hpending
    exact hpending.symm
  · cases status with
    | none => decide
    | some word => exact dif_pos word.property

theorem conversations_restored (malformed : List UInt8 → String) (params : ConversationListParams) :
    parseConversationListParams
      (openQuery malformed (buildConversationListQueryString params)) = params := by
  unfold buildConversationListQueryString parseConversationListParams
  rw [openQuery_queryString]
  simp

theorem tickets_restored (malformed : List UInt8 → String) (params : TicketListParams) :
    parseTicketListParams (openQuery malformed (buildTicketListQueryString params)) = params := by
  unfold buildTicketListQueryString parseTicketListParams
  rw [openQuery_queryString]
  simp

theorem approvals_restored (malformed : List UInt8 → String)
    (params : StatusListParams approvalStatuses) :
    parseApprovalListParams (openQuery malformed (buildApprovalListQueryString params)) =
      params := by
  unfold buildApprovalListQueryString parseApprovalListParams
  rw [openQuery_queryString]
  simp [parse_approvalValue]

theorem documents_restored (malformed : List UInt8 → String)
    (params : KnowledgeDocumentListParams) :
    parseKnowledgeDocumentListParams
      (openQuery malformed (buildKnowledgeDocumentListQueryString params)) = params := by
  unfold buildKnowledgeDocumentListQueryString parseKnowledgeDocumentListParams
  rw [openQuery_queryString]
  simp

theorem page_restored (malformed : List UInt8 → String) {search : SearchParams}
    (h : search.get "page" = none) (page : Page) :
    parsePageOnly (openQuery malformed (queryString (setSome search "page" (pageValue page)))) =
      page := by
  rw [openQuery_queryString, parsePageOnly]
  simp [h]

theorem statusList_restored (malformed : List UInt8 → String) {valid : List String}
    {search : SearchParams} {pageName statusName : String} (hne : pageName ≠ statusName)
    (hpage : search.get pageName = none) (hstatus : search.get statusName = none)
    (params : StatusListParams valid) :
    parseStatusList pageName statusName valid (openQuery malformed
      (queryString (setStatusList search pageName statusName params))) = params := by
  rw [openQuery_queryString]
  exact parse_setStatusList hne hpage hstatus params

/-- The tab is none of the parameters that a list sets. -/
theorem integrationsTab_page (malformed : List UInt8 → String) (search : SearchParams)
    (page : Page) :
    parseIntegrationsTab (openQuery malformed
      (queryString (setSome search "page" (pageValue page)))) = parseIntegrationsTab search := by
  rw [openQuery_queryString]
  simp [parseIntegrationsTab]

theorem evaluationTab_statusList (malformed : List UInt8 → String) {valid : List String}
    (search : SearchParams) (params : StatusListParams valid) :
    parseEvaluationTab (openQuery malformed
      (queryString (setStatusList search "page" "status" params))) = parseEvaluationTab search := by
  rw [openQuery_queryString]
  simp [parseEvaluationTab, setStatusList]

theorem documents_tab (malformed : List UInt8 → String) (params : KnowledgeDocumentListParams) :
    parseKnowledgeTab (openQuery malformed (buildKnowledgeDocumentListQueryString params)) =
      .documents := by
  unfold buildKnowledgeDocumentListQueryString
  rw [openQuery_queryString]
  simp [parseKnowledgeTab]

/-- Every list is restored from its URL, on its own tab, from any state that it can have. -/
theorem urlState_restored (malformed : List UInt8 → String) (list : ListPage)
    (params : list.urlState.Params) : list.urlState.Restored malformed params := by
  cases list with
  | conversations => exact ⟨conversations_restored malformed params, trivial⟩
  | tickets => exact ⟨tickets_restored malformed params, trivial⟩
  | approvals => exact ⟨approvals_restored malformed params, trivial⟩
  | handoffs => exact ⟨statusList_restored malformed (by decide) rfl rfl params, trivial⟩
  | agentRuns => exact ⟨statusList_restored malformed (by decide) rfl rfl params, trivial⟩
  | connections =>
    exact ⟨page_restored malformed rfl params, integrationsTab_page malformed [] params⟩
  | endpoints =>
    exact ⟨page_restored malformed rfl params, integrationsTab_page malformed _ params⟩
  | deliveries =>
    exact ⟨page_restored malformed rfl params, integrationsTab_page malformed _ params⟩
  | members => exact ⟨page_restored malformed rfl params, trivial⟩
  | documents => exact ⟨documents_restored malformed params, documents_tab malformed params⟩
  | runs =>
    exact ⟨statusList_restored malformed (by decide) rfl rfl params,
      evaluationTab_statusList malformed [] params⟩
  | results => exact ⟨statusList_restored malformed (by decide) rfl rfl params, trivial⟩
  | datasets =>
    exact ⟨statusList_restored malformed (by decide) rfl rfl params,
      evaluationTab_statusList malformed _ params⟩
  | cases => exact ⟨statusList_restored malformed (by decide) rfl rfl params, trivial⟩

/-- A search is restored exactly when no white space stands around it and no surrogate alone in
it; that of the customers must not be too long either. The rest of the state always is. -/
theorem searches_restored_iff (malformed : List UInt8 → String) :
    (∀ params : CustomerListParams,
      parseCustomerListParams (openQuery malformed (buildCustomerListQueryString params)) = params ↔
        Clean params.search ∧ params.search.length ≤ maxSearchLength) ∧
    ∀ params : KnowledgeSourceListParams,
      (parseKnowledgeSourceListParams
          (openQuery malformed (buildKnowledgeSourceListQueryString params)) = params ↔
        Clean params.search) ∧
      parseKnowledgeTab (openQuery malformed (buildKnowledgeSourceListQueryString params)) =
        .sources := by
  refine ⟨fun params => ?_, fun params => ⟨?_, ?_⟩⟩
  · rw [← restored_take_iff, ← parseSearch_searchValue]
    unfold buildCustomerListQueryString parseCustomerListParams
    rw [openQuery_queryString]
    obtain ⟨page, search, status⟩ := params
    simp
  · rw [← restored_iff, ← parseSearch_searchValue]
    unfold buildKnowledgeSourceListQueryString parseKnowledgeSourceListParams
    rw [openQuery_queryString]
    obtain ⟨page, search, isActive⟩ := params
    simp
  · unfold buildKnowledgeSourceListQueryString parseKnowledgeTab
    rw [openQuery_queryString]
    simp

end SupportPilot.Frontend.UrlParams
