import OpenClawService.Api.Runs
import OpenClawService.Embedding.Outbound
import OpenClawService.Storage.JsonText

/-! What a reviewer sees of an approval card. Teams puts the attachment that the body refers
to in its place, and builds the card from the text that it carries. -/
namespace OpenClaw.Embedding
open Api Interleaving MSGraph
open Text (Proper)

/-- A card as it is displayed. -/
structure Shown where
  title : String
  description : String
  facts : List (String × String)
  approveUrl : String
  rejectUrl : String
  deriving DecidableEq

def fieldAt (name : String) : Json → Option Json
  | .obj fields => fields.lookup name
  | _ => none

def textOf : Json → Option String
  | .str text => some text
  | _ => none

def itemsOf : Json → Option (List Json)
  | .arr items => some items
  | _ => none

def textAt (name : String) (value : Json) : Option String := (fieldAt name value).bind textOf

def itemsAt (name : String) (value : Json) : Option (List Json) := (fieldAt name value).bind itemsOf

/-- The elements of a type, in order. -/
def ofType (type : String) (items : List Json) : List Json := items.filter fun item => textAt "type" item == some type

def readFact (fact : Json) : Option (String × String) := do return (← textAt "title" fact, ← textAt "value" fact)

def readFacts (set : Json) : Option (List (String × String)) := (itemsAt "facts" set).bind fun facts => facts.mapM readFact

/-- Where the button of that title leads. -/
def buttonUrl (title : String) (actions : List Json) : Option String :=
  (actions.find? fun action => textAt "title" action == some title).bind (textAt "url")

/-- The first two texts are the title and the description; the facts of all sets are listed. -/
def readCard (card : Json) : Option Shown := do
  let body ← itemsAt "body" card
  let texts ← (ofType "TextBlock" body).mapM (textAt "text")
  let sets ← (ofType "FactSet" body).mapM readFacts
  let actions ← itemsAt "actions" card
  return ⟨← texts[0]?, ← texts[1]?, sets.flatten, ← buttonUrl "Approve" actions, ← buttonUrl "Reject" actions⟩

def placeholderOf (attachmentId : String) : String := "<attachment id=\"" ++ attachmentId ++ "\"></attachment>"

def refersTo (placeholder : String) (attachment : Json) : Bool := (textAt "id" attachment).map placeholderOf == some placeholder

/-- The attachment that stands where the body has its placeholder. -/
def attached (payload : Json) : Option Json := do
  let placeholder ← (fieldAt "body" payload).bind (textAt "content")
  let attachments ← itemsAt "attachments" payload
  attachments.find? (refersTo placeholder)

/-- The card that a payload shows. -/
def shownCard [Library] [Json.Numerals] (payload : Json) : Option Shown := do
  let text ← (attached payload).bind (textAt "content")
  readCard (← Json.loads text)

def cardView (card : TeamsApprovalCard) : Shown := ⟨card.title, card.description, card.metadata, card.approveUrl, card.rejectUrl⟩

def factOf (entry : String × String) : Json := .obj [("title", .str entry.1), ("value", .str entry.2)]

theorem readFacts_map (metadata : List (String × String)) : (metadata.map factOf).mapM readFact = some metadata := by
  induction metadata with
  | nil => rfl
  | cons entry rest ih =>
    rw [List.map_cons, List.mapM_cons, ih]
    rfl

/-- The elements of a card, with the fact set as the builder leaves it out. -/
def cardBody (card : TeamsApprovalCard) : List Json :=
  [textBlock card.title [("weight", .str "Bolder"), ("size", .str "Medium")], textBlock card.description [("wrap", .bool true)]] ++
    if (card.metadata.map factOf).isEmpty then [] else [.obj [("type", .str "FactSet"), ("facts", .arr (card.metadata.map factOf))]]

theorem buildApprovalCard_eq (card : TeamsApprovalCard) : buildApprovalCard card = .obj [("type", .str "AdaptiveCard"),
    ("$schema", .str "http://adaptivecards.io/schemas/adaptive-card.json"), ("version", .str "1.4"), ("body", .arr (cardBody card)),
    ("actions", .arr [openUrl "Approve" card.approveUrl, openUrl "Reject" card.rejectUrl])] := rfl

/-- The builder and the reader agree on every card. -/
theorem readCard_build (card : TeamsApprovalCard) : readCard (buildApprovalCard card) = some (cardView card) := by
  have body : itemsAt "body" (buildApprovalCard card) = some (cardBody card) := rfl
  have actions : itemsAt "actions" (buildApprovalCard card) =
      some [openUrl "Approve" card.approveUrl, openUrl "Reject" card.rejectUrl] := rfl
  have texts : (ofType "TextBlock" (cardBody card)).mapM (textAt "text") = some [card.title, card.description] := by
    unfold cardBody
    split <;> rfl
  have sets : (ofType "FactSet" (cardBody card)).mapM readFacts = some (if card.metadata.isEmpty then [] else [card.metadata]) := by
    unfold cardBody
    cases metadata : card.metadata with
    | nil => rfl
    | cons entry rest =>
      have only : readFacts (.obj [("type", .str "FactSet"), ("facts", .arr ((entry :: rest).map factOf))]) = some (entry :: rest) :=
        readFacts_map (entry :: rest)
      rw [if_neg (by simp), if_neg (by simp)]
      change List.mapM readFacts [_] = _
      rw [List.mapM_cons, only]
      rfl
  have flat : (if card.metadata.isEmpty then [] else [card.metadata]).flatten = card.metadata := by
    cases card.metadata <;> simp
  rw [readCard, body, Option.bind_eq_bind, Option.bind_some, texts, Option.bind_eq_bind, Option.bind_some, sets, actions]
  simp only [Option.bind_eq_bind, Option.bind_some, flat]
  rfl

section Wire
variable [Library] [Json.Numerals]

theorem fact_loaded (entry : String × String) : Json.Loaded (factOf entry) := .obj (by simp) (by simp [Json.Loaded.str])

theorem element_loaded {card : TeamsApprovalCard} {element : Json} (listed : element ∈ cardBody card) : Json.Loaded element := by
  have title : Json.Loaded (textBlock card.title [("weight", .str "Bolder"), ("size", .str "Medium")]) :=
    .obj (by simp) (by simp [Json.Loaded.str])
  have description : Json.Loaded (textBlock card.description [("wrap", .bool true)]) :=
    .obj (by simp) (by simp [Json.Loaded.str, Json.Loaded.bool])
  have facts : Json.Loaded (.arr (card.metadata.map factOf)) := by
    refine .arr fun fact listed => ?_
    obtain ⟨entry, _, rfl⟩ := List.mem_map.mp listed
    exact fact_loaded entry
  have set : Json.Loaded (.obj [("type", .str "FactSet"), ("facts", .arr (card.metadata.map factOf))]) :=
    .obj (by simp) (by simp [Json.Loaded.str, facts])
  unfold cardBody at listed
  split at listed <;> simp only [List.append_nil, List.mem_append, List.mem_cons, List.not_mem_nil, or_false] at listed
  · rcases listed with rfl | rfl
    · exact title
    · exact description
  · rcases listed with (rfl | rfl) | rfl
    · exact title
    · exact description
    · exact set

/-- No card has a number, and no object of it two fields of a name. -/
theorem card_loaded (card : TeamsApprovalCard) : Json.Loaded (buildApprovalCard card) := by
  have body : Json.Loaded (.arr (cardBody card)) := .arr fun _ => element_loaded
  have button (title url : String) : Json.Loaded (openUrl title url) := .obj (by simp) (by simp [Json.Loaded.str])
  have actions : Json.Loaded (.arr [openUrl "Approve" card.approveUrl, openUrl "Reject" card.rejectUrl]) :=
    .arr (by simp [button])
  rw [buildApprovalCard_eq]
  exact .obj (by simp) (by simp [Json.Loaded.str, body, actions])

/-- What is posted shows the card, when `json.dumps` writes JSON as it is read. -/
theorem shownCard_payload (dumps : ∀ value, Library.dumps value = Json.dumps value) (card : TeamsApprovalCard) (attachmentId : String) :
    shownCard (cardPayload card attachmentId) = some (cardView card) := by
  have refers : attached (cardPayload card attachmentId) = some (.obj [("id", .str attachmentId),
      ("contentType", .str "application/vnd.microsoft.card.adaptive"), ("contentUrl", .null),
      ("content", .str (Library.dumps (buildApprovalCard card)))]) := by
    have named {attachment : Json} (own : textAt "id" attachment = some attachmentId) :
        refersTo (placeholderOf attachmentId) attachment = true := by
      rw [refersTo, own]
      exact beq_self_eq_true _
    exact List.find?_cons_of_pos (named rfl)
  have carried : (attached (cardPayload card attachmentId)).bind (textAt "content") = some (Library.dumps (buildApprovalCard card)) := by
    rw [refers]
    rfl
  rw [shownCard, carried, dumps, Option.bind_eq_bind, Option.bind_some, Json.loads_dumps (card_loaded card)]
  exact readCard_build card

end Wire

section Runs
variable [Library] [FastApi] [Json.Numerals] {ι : Type} [DecidableEq ι] {settings : AppSettings} {inbounds : ι → Inbound}
  {redis : Redis ι} {env : Environment ι} {i : ι} {c : ServiceConfig ι (Except Exc Response)}

/-- A message that shows the card, posted to the channel of the card if its ids are segments of a path. -/
structure Posts (card : TeamsApprovalCard) (asked : HttpRequest) : Prop where
  method : asked.method = "POST"
  addressed : Addresses graphOrigin asked.url (messagesPath card.teamId card.channelId) ↔
    Proper card.teamId.toList ∧ Proper card.channelId.toList
  shown : ∃ payload, asked.json = some payload ∧ shownCard payload = some (cardView card)

/-- Whatever else the service does, a request for an approval card calls Microsoft only to renew
its token and to post a message that shows this card. -/
theorem cards_shown (dumps : ∀ value, Library.dumps value = Json.dumps value)
    (run : Reaches (system env) ⟨⟨redis, []⟩, requests settings inbounds⟩ c)
    (route : (inbounds i).route = .sendApproval connectionId card key) {asked : HttpRequest} {answer : Except String HttpResponse}
    (listed : .call i (.outside (.http asked)) answer ∈ c.shared.log) :
    (∃ refreshToken, asked = MSDeviceCode.refreshRequest settings.toSettings refreshToken) ∨ Posts card asked := by
  rcases routed_run run i (.http asked) answer listed with within | ⟨p, traffic⟩
  · cases within
  · rw [route] at traffic
    rcases traffic with ⟨refreshToken, same⟩ | ⟨payload, token, ⟨attachmentId, rfl⟩, same⟩
    · cases same
      exact Or.inl ⟨refreshToken, rfl⟩
    · cases same
      exact Or.inr ⟨rfl, channel_addressed .., _, rfl, shownCard_payload dumps card attachmentId⟩

end Runs

section Display

/-- The sample library with the writer of JSON. -/
@[reducible] def writing : Library := { Library.sample with dumps := @Json.dumps Library.sample }

/-- The writer only asks the library for numbers. -/
theorem writing_dumps (value : Json) : @Library.dumps writing value = @Json.dumps writing value := by
  have same : @Json.write Library.sample = @Json.write writing := by
    delta Json.write
    rfl
  exact congrArg String.ofList (congrFun same value)

local instance writtenBy : Library := writing
local instance carriedBy : FastApi := .sample
local instance numberedBy : Json.Numerals where
  value := Json.digitValue
  numeral_text := (@Json.Numerals.sample).numeral_text
  value_text := (@Json.Numerals.sample).value_text

def approvalCard : TeamsApprovalCard where
  teamId := "team"
  channelId := "channel"
  title := "Invoice \"7\""
  description := "first line\nsecond line"
  approveUrl := "https://app/approve/7"
  rejectUrl := "https://app/reject/7"
  metadata := [("Supplier", "Müller & Söhne")]

def asking : ServiceConfig Unit (Except Exc Response) :=
  ⟨⟨{ Redis.empty with hashes := fun _ => TokenStore.toMapping { accessToken := "a0", expiresAt := 1000000, refreshToken := some "r0" } }, []⟩,
    requests .sample fun _ => ⟨some "r0", some "Bearer key", .sendApproval "ms" approvalCard none⟩⟩

def posting : List (Move Unit) := [.outside () Outside.silence, .redis (), .outside () Outside.silence, .outside () Outside.silence]

theorem cards_shown_posted : ∃ asked answer, .call () (.outside (.http asked)) answer ∈ (posting.foldl play asking).shared.log ∧
    Posts approvalCard asked ∧ Addresses graphOrigin asked.url (messagesPath "team" "channel") := by
  have run : Reaches (system (.free _)) asking (posting.foldl play asking) := plays_run (free_legal _ _)
  have listed : .call () (.outside (.http (postRequest "team" "channel" (cardPayload approvalCard "") "a0"))) (.error "") ∈
      (posting.foldl play asking).shared.log := List.mem_cons_self
  have team : Proper "team".toList := ⟨⟨by decide, by decide, by decide, by decide⟩, by decide⟩
  have channel : Proper "channel".toList := ⟨⟨by decide, by decide, by decide, by decide⟩, by decide⟩
  rcases cards_shown writing_dumps run rfl listed with ⟨refreshToken, same⟩ | posts
  · cases congrArg HttpRequest.headers same
  · exact ⟨_, _, listed, posts, posts.addressed.mpr ⟨team, channel⟩⟩

end Display
end OpenClaw.Embedding
