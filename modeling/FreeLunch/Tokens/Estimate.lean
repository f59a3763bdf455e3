import FreeLunch.Foundations.Writes
import FreeLunch.Python.Json
import Mathlib.Data.List.Infix

/-!
# Token estimates of a request

`request_contains_vision` and `estimate_required_tokens` of `src/tokens.py` on the messages,
the tools and the response format of a request, which are whatever JSON the client sent.

Main results:

- Theorem `requestContainsVision_ok_iff`: the messages can be searched for images exactly
  when they are empty or a list of objects, up to the first message with an image, whose types
  can be written.
- Theorem `estimateRequiredTokens_ok_iff`: a request can be estimated exactly when its
  messages are objects whose texts can be counted and whose values can be serialised.

Current gaps:

- How many tokens a text has is a parameter, and so are `str.lower` and which texts UTF-8
  encodes: `str` can hold lone surrogates.
- The stack is the number of levels that `str` and `json.dumps` get into a value, at the
  place that searches or estimates a request.
-/

namespace FreeLunch
namespace Tokens

open Python Writes

/-! ## Texts -/

/-- How many levels of lists and objects `str` and `json.dumps` get into a value before the
stack runs out. -/
structure StackRoom where
  str : Nat
  json : Nat

/-- The second stack has at least as much room. -/
structure StackRoom.Below (small large : StackRoom) : Prop where
  str : small.str ≤ large.str
  json : small.json ≤ large.json

/-- What the estimates take from the tokenizer libraries, the heuristic, the Unicode database
and the interpreter. -/
structure Tokenizer where
  /-- `str.lower`. -/
  lower : String → String
  /-- `text.encode("utf-8")` succeeds. -/
  encodable : String → Bool
  /-- `_exact_text_token_count` for a tokenizer family and a model hint; a missing family is
  read as the empty one. -/
  exactTextTokenCount : (text tokenizerFamily modelHint : String) → Option Nat
  /-- `_heuristic_text_token_count` of a text that is not empty and can be encoded. -/
  heuristicTextTokenCount : (text tokenizerFamily : String) → Nat
  /-- `max(math.ceil(total * (1.0 + safety_buffer)), 1)`. -/
  withSafetyBuffer : Nat → Int
  /-- The stack that is left where the request is searched or estimated. -/
  room : StackRoom

/-- The same on another stack. -/
def Tokenizer.within (env : Tokenizer) (room : StackRoom) : Tokenizer :=
  { env with room := room }

/-- The tokenizer of a candidate: its family and its provider's name for the model. -/
structure Family where
  tokenizerFamily : String
  modelHint : String

section Estimate

variable {F : Type} [Runtime F] (env : Tokenizer) (family : Family)

/-- `str(v)`, which follows the lists and objects in a value. -/
def strOf (v : PyValue F) : Except Exc String :=
  if v.nesting ≤ env.room.str then .ok v.toStr
  else
    .error (.recursionError
      "maximum recursion depth exceeded while getting the repr of an object")

/-- `_text_token_estimate`: the heuristic encodes the text. -/
def textTokenEstimate (text : String) : Except Exc Nat :=
  if text = "" then .ok 0
  else
    match env.exactTextTokenCount text family.tokenizerFamily family.modelHint with
    | some count => .ok count
    | none =>
        if env.encodable text then
          .ok (env.heuristicTextTokenCount text family.tokenizerFamily)
        else
          .error (.valueError
            "'utf-8' codec can't encode characters: surrogates not allowed")

mutual

/-- `json.dumps(v, ensure_ascii=True, separators=(",", ":"))`. -/
def compactJson : PyValue F → String
  | .none => "null"
  | .bool b => if b then "true" else "false"
  | .int n => intText n
  | .float x => Runtime.floatJson x
  | .str s => dumpString s
  | .list items => "[" ++ ",".intercalate (compactItems items) ++ "]"
  | .dict members => "\x7b" ++ ",".intercalate (compactMembers members) ++ "\x7d"

/-- The items of a list. -/
def compactItems : List (PyValue F) → List String
  | [] => []
  | v :: rest => compactJson v :: compactItems rest

/-- The members of a dictionary. -/
def compactMembers : List (String × PyValue F) → List String
  | [] => []
  | (key, v) :: rest => (dumpString key ++ ":" ++ compactJson v) :: compactMembers rest

end

/-- `_json_token_estimate`: the text is ASCII, which can be encoded. -/
def jsonTokenEstimate (v : PyValue F) : Except Exc Nat :=
  if v.nesting ≤ env.room.json then
    let text := compactJson v
    .ok ((env.exactTextTokenCount text family.tokenizerFamily family.modelHint).getD
      (env.heuristicTextTokenCount text family.tokenizerFamily))
  else
    .error (.recursionError "maximum recursion depth exceeded while encoding a JSON object")

/-! ## Messages -/

/-- `d.get(key, default)`. -/
def memberOr (members : List (String × PyValue F)) (key : String) (default : PyValue F) :
    PyValue F :=
  (dictGet members key).getD default

/-- `part.get("type", "")`. -/
def typeMember (members : List (String × PyValue F)) : PyValue F :=
  memberOr members "type" (.str "")

/-- `str(part.get("type", "")).lower()`. -/
def partType (members : List (String × PyValue F)) : Except Exc String :=
  (strOf env (typeMember members)).map env.lower

/-- The answer of `_is_image_part` on an object of the given type. -/
def isImageType (type : String) (members : List (String × PyValue F)) : Bool :=
  decide ("image".toList <:+: type.toList) ||
    (dictGet members "image_url").isSome || (dictGet members "input_image").isSome

/-- `_is_image_part`. -/
def isImagePart (part : PyValue F) : Except Exc Bool :=
  match part with
  | .dict members => (partType env members).map fun type => isImageType type members
  | _ => .ok false

/-- `any(_is_image_part(part) for part in parts)`. -/
def anyImagePart : List (PyValue F) → Except Exc Bool
  | [] => .ok false
  | part :: rest => do
      if ← isImagePart env part then return true
      anyImagePart rest

/-- `_is_image_part` of the content, or of one of its parts. -/
def contentHasImage (content : PyValue F) : Except Exc Bool :=
  match content with
  | .dict members => isImagePart env (.dict members)
  | .list parts => anyImagePart env parts
  | _ => .ok false

/-- The loop of `request_contains_vision`. -/
def visionIn : List (PyValue F) → Except Exc Bool
  | [] => .ok false
  | message :: rest => do
      let content ← message.get "content" .none
      if ← contentHasImage env content then return true
      visionIn rest

/-- `request_contains_vision`. -/
def requestContainsVision (messages : PyValue F) : Except Exc Bool := do
  if !messages.truthy then return false
  visionIn env (← messages.iter)

/-- `IMAGE_TOKEN_COST`. -/
def imageTokenCost : Nat := 256

/-- `MESSAGE_OVERHEAD_TOKENS`. -/
def messageOverheadTokens : Nat := 6

/-- `REQUEST_OVERHEAD_TOKENS`. -/
def requestOverheadTokens : Nat := 16

/-- `STRUCTURED_OUTPUT_OVERHEAD_TOKENS`. -/
def structuredOutputOverheadTokens : Nat := 16

/-- `TOOLS_OVERHEAD_TOKENS`. -/
def toolsOverheadTokens : Nat := 32

/-- `MESSAGE_METADATA_OVERHEAD_TOKENS`. -/
def messageMetadataOverheadTokens : Nat := 2

/-- `_TEXT_MESSAGE_FIELDS`. -/
def textMessageFields : List String :=
  ["name", "tool_call_id", "refusal"]

/-- `_JSON_MESSAGE_FIELDS`. -/
def jsonMessageFields : List String :=
  ["tool_calls", "function_call", "audio"]

/-- An object of a content: an image, a text or anything else. -/
def objectTokens (members : List (String × PyValue F)) : Except Exc Nat := do
  if ← isImagePart env (.dict members) then return imageTokenCost
  if ["text", "input_text"].contains (← partType env members) then
    textTokenEstimate env family (← strOf env (memberOr members "text" (.str "")))
  else jsonTokenEstimate env family (PyValue.dict members)

/-- `_text_token_estimate(str(value))`. -/
def valueTokens (value : PyValue F) : Except Exc Nat := do
  textTokenEstimate env family (← strOf env value)

/-- A part of a content. -/
def partTokens (part : PyValue F) : Except Exc Nat :=
  match part with
  | .dict members => objectTokens env family members
  | part => valueTokens env family part

/-- `_estimate_message_content_tokens`. -/
def estimateMessageContentTokens (content : PyValue F) : Except Exc Nat :=
  match content with
  | .none => .ok 0
  | .list parts =>
      parts.foldlM (fun total part => (partTokens env family part).map (total + ·)) 0
  | .dict members => objectTokens env family members
  | content => valueTokens env family content

/-- A field of `_TEXT_MESSAGE_FIELDS`. -/
def textFieldTokens (members : List (String × PyValue F)) (total : Nat) (field : String) :
    Except Exc Nat :=
  let value := memberOr members field .none
  if value.truthy then
    (valueTokens env family value).map (total + messageMetadataOverheadTokens + ·)
  else .ok total

/-- A field of `_JSON_MESSAGE_FIELDS`. -/
def jsonFieldTokens (members : List (String × PyValue F)) (total : Nat) (field : String) :
    Except Exc Nat :=
  let value := memberOr members field .none
  if value.isNone then .ok total
  else (jsonTokenEstimate env family value).map (total + messageMetadataOverheadTokens + ·)

/-- `_estimate_message_tokens`. -/
def estimateMessageTokens (message : PyValue F) : Except Exc Nat :=
  match message with
  | .dict members => do
      let content ← estimateMessageContentTokens env family (memberOr members "content" .none)
      let total ← textMessageFields.foldlM (textFieldTokens env family members)
        (messageOverheadTokens + content)
      jsonMessageFields.foldlM (jsonFieldTokens env family members) total
  | message =>
      .error (.attributeError ("'" ++ message.typeName ++ "' object has no attribute 'get'"))

/-- The tools or the response format, with their overhead. -/
def extraTokens (overheadTokens : Nat) (value : PyValue F) (total : Nat) : Except Exc Nat :=
  if value.truthy then (jsonTokenEstimate env family value).map (total + overheadTokens + ·)
  else .ok total

/-- `estimate_required_tokens`. -/
def estimateRequiredTokens (messages tools responseFormat : PyValue F) : Except Exc Int := do
  let items ← (messages.orElse (.list [])).iter
  let total ← items.foldlM
    (fun total message => (estimateMessageTokens env family message).map (total + ·))
    requestOverheadTokens
  let total ← extraTokens env family toolsOverheadTokens tools total
  let total ← extraTokens env family structuredOutputOverheadTokens responseFormat total
  return env.withSafetyBuffer total

/-! ## Searching for images -/

/-- A value that `str` gets through. -/
def Printable (v : PyValue F) : Prop :=
  v.nesting ≤ env.room.str

/-- A value that `json.dumps` gets through. -/
def Serialisable (v : PyValue F) : Prop :=
  v.nesting ≤ env.room.json

/-- The object is an image part, as its type is written. -/
def isImageObject (members : List (String × PyValue F)) : Bool :=
  isImageType (env.lower (typeMember members).toStr) members

/-- The types of the parts can be written, up to the first image. -/
def SearchableParts : List (PyValue F) → Prop
  | [] => True
  | .dict members :: rest =>
      Printable env (typeMember members) ∧
        (isImageObject env members = false → SearchableParts rest)
  | _ :: rest => SearchableParts rest

/-- A content that can be searched for images. -/
def SearchableContent (content : PyValue F) : Prop :=
  match content with
  | .dict members => Printable env (typeMember members)
  | .list parts => SearchableParts env parts
  | _ => True

/-- One of the parts is an image. -/
def isImage (part : PyValue F) : Bool :=
  match part with
  | .dict members => isImageObject env members
  | _ => false

/-- The content is an image or has an image part. -/
def hasImage (content : PyValue F) : Bool :=
  match content with
  | .list parts => parts.any (isImage env)
  | content => isImage env content

/-- Every message up to the first one with an image is an object whose content can be
searched. -/
def Searchable : List (PyValue F) → Prop
  | [] => True
  | message :: rest =>
      ∃ members, message = .dict members ∧
        SearchableContent env (memberOr members "content" .none) ∧
        (hasImage env (memberOr members "content" .none) = false → Searchable rest)

/-- A value that is empty or zero, or a list that can be searched for images. -/
def SearchableMessages (messages : PyValue F) : Prop :=
  messages.truthy = false ∨ ∃ items, messages = .list items ∧ Searchable env items

omit [Runtime F] in
theorem get_dict (members : List (String × PyValue F)) (key : String) (default : PyValue F) :
    (PyValue.dict members).get key default = .ok (memberOr members key default) :=
  rfl

theorem strOf_eq {v : PyValue F} (h : Printable env v) : strOf env v = .ok v.toStr :=
  if_pos h

theorem strOf_of_deep {v : PyValue F} (h : ¬ Printable env v) :
    strOf env v = .error (.recursionError
      "maximum recursion depth exceeded while getting the repr of an object") :=
  if_neg h

theorem strOf_ok_iff (v : PyValue F) : (∃ text, strOf env v = .ok text) ↔ Printable env v := by
  constructor
  · rintro ⟨text, h⟩
    unfold strOf at h
    split at h
    · next hprintable => exact hprintable
    · cases h
  · intro h
    exact ⟨_, strOf_eq env h⟩

theorem exists_map_ok_iff {α β : Type} {x : Except Exc α} {f : α → β} :
    (∃ b, x.map f = .ok b) ↔ ∃ a, x = .ok a := by
  cases x <;> simp [Except.map]

theorem partType_eq {members : List (String × PyValue F)}
    (h : Printable env (typeMember members)) :
    partType env members = .ok (env.lower (typeMember members).toStr) := by
  rw [partType, strOf_eq env h]
  rfl

theorem isImagePart_dict_eq {members : List (String × PyValue F)}
    (h : Printable env (typeMember members)) :
    isImagePart env (.dict members) = .ok (isImageObject env members) := by
  rw [isImagePart, partType_eq env h]
  rfl

theorem isImagePart_dict_ok_iff (members : List (String × PyValue F)) :
    (∃ image, isImagePart env (.dict members) = .ok image) ↔
      Printable env (typeMember members) := by
  rw [isImagePart, exists_map_ok_iff, partType, exists_map_ok_iff, strOf_ok_iff]

theorem anyImagePart_ok_iff (parts : List (PyValue F)) :
    (∃ image, anyImagePart env parts = .ok image) ↔ SearchableParts env parts := by
  induction parts with
  | nil => exact iff_of_true ⟨false, rfl⟩ trivial
  | cons part rest ih =>
      unfold anyImagePart
      cases part with
      | dict members =>
          rw [SearchableParts, exists_bind_ok_iff]
          constructor
          · rintro ⟨image, himage, hrest⟩
            have hprintable := (isImagePart_dict_ok_iff env members).mp ⟨image, himage⟩
            rw [isImagePart_dict_eq env hprintable] at himage
            cases himage
            refine ⟨hprintable, fun hno => ih.mp ?_⟩
            rw [hno] at hrest
            exact hrest
          · rintro ⟨hprintable, hrest⟩
            refine ⟨_, isImagePart_dict_eq env hprintable, ?_⟩
            cases himage : isImageObject env members with
            | true => exact ⟨true, rfl⟩
            | false => exact ih.mpr (hrest himage)
      | _ => exact ih

theorem anyImagePart_eq {parts : List (PyValue F)} (h : SearchableParts env parts) :
    anyImagePart env parts = .ok (parts.any (isImage env)) := by
  induction parts with
  | nil => rfl
  | cons part rest ih =>
      unfold anyImagePart
      cases part with
      | dict members =>
          rw [isImagePart_dict_eq env h.1, List.any_cons, isImage, ok_bind]
          cases himage : isImageObject env members with
          | true => rfl
          | false => exact ih (h.2 himage)
      | _ => exact ih h

theorem contentHasImage_ok_iff (content : PyValue F) :
    (∃ image, contentHasImage env content = .ok image) ↔ SearchableContent env content := by
  cases content with
  | dict members => exact isImagePart_dict_ok_iff env members
  | list parts => exact anyImagePart_ok_iff env parts
  | _ => exact iff_of_true ⟨false, rfl⟩ trivial

theorem contentHasImage_eq {content : PyValue F} (h : SearchableContent env content) :
    contentHasImage env content = .ok (hasImage env content) := by
  cases content with
  | dict members => exact isImagePart_dict_eq env h
  | list parts => exact anyImagePart_eq env h
  | _ => rfl

theorem visionIn_ok_iff (items : List (PyValue F)) :
    (∃ vision, visionIn env items = .ok vision) ↔ Searchable env items := by
  induction items with
  | nil => exact iff_of_true ⟨false, rfl⟩ trivial
  | cons message rest ih =>
      unfold visionIn Searchable
      cases message with
      | dict members =>
          simp only [get_dict, ok_bind, PyValue.dict.injEq, exists_eq_left']
          rw [exists_bind_ok_iff]
          constructor
          · rintro ⟨image, himage, hrest⟩
            have hsearchable := (contentHasImage_ok_iff env _).mp ⟨image, himage⟩
            rw [contentHasImage_eq env hsearchable] at himage
            cases himage
            refine ⟨hsearchable, fun hno => ih.mp ?_⟩
            rw [hno] at hrest
            exact hrest
          · rintro ⟨hsearchable, hrest⟩
            refine ⟨_, contentHasImage_eq env hsearchable, ?_⟩
            cases himage : hasImage env (memberOr members "content" .none) with
            | true => exact ⟨true, rfl⟩
            | false => exact ih.mpr (hrest himage)
      | _ => simp [PyValue.get, bind, Except.bind]

/-- What a loop over a value that is not empty runs over: the items of a list, or characters
or keys, which are texts, or nothing that can be iterated. -/
theorem iter_cases {messages : PyValue F} (h : messages.truthy = true) :
    (∃ items, messages = .list items ∧ messages.iter = .ok items) ∨
      ((∀ items, messages ≠ .list items) ∧
        ((∃ text rest, messages.iter = .ok (.str text :: rest)) ∨
          ∀ items, messages.iter ≠ .ok items)) := by
  cases messages with
  | list items => exact .inl ⟨items, rfl, rfl⟩
  | str text =>
      refine .inr ⟨by simp, .inl ?_⟩
      have hne : text.toList ≠ [] := by
        intro hnil
        simp [PyValue.truthy, String.toList_eq_nil_iff.mp hnil] at h
      obtain ⟨c, cs, hcs⟩ := List.exists_cons_of_ne_nil hne
      simp [PyValue.iter, PyValue.items?, hcs]
  | dict members =>
      refine .inr ⟨by simp, .inl ?_⟩
      cases members with
      | nil => cases h
      | cons member others => simp [PyValue.iter, PyValue.items?]
  | _ =>
      refine .inr ⟨by simp, .inr ?_⟩
      simp [PyValue.iter, PyValue.items?]

/-- The messages can be searched for images when they are empty or a list of objects up to
the first image. -/
theorem requestContainsVision_ok_iff (messages : PyValue F) :
    (∃ vision, requestContainsVision env messages = .ok vision) ↔
      SearchableMessages env messages := by
  unfold requestContainsVision SearchableMessages
  cases htruthy : messages.truthy with
  | false => simp [pure, Except.pure]
  | true =>
      simp only [Bool.not_true, Bool.false_eq_true, if_false, Bool.true_eq_false, false_or]
      rcases iter_cases htruthy with ⟨items, rfl, hiter⟩ | ⟨hlist, hother⟩
      · rw [hiter]
        simpa using visionIn_ok_iff env items
      · refine iff_of_false ?_ ?_
        · intro h
          obtain ⟨items, hitems, vision, hvision⟩ := exists_bind_ok_iff.mp h
          rcases hother with ⟨text, rest, hiter⟩ | hiter
          · rw [hiter] at hitems
            cases hitems
            -- a character or a key has no `get`
            cases hvision
          · exact hiter items hitems
        · rintro ⟨items, h, -⟩
          exact hlist items h

/-! ## Estimating -/

/-- A text whose tokens can be counted: an exact tokenizer counts them, or the text can be
encoded. -/
def Countable (text : String) : Prop :=
  text = "" ∨
    (env.exactTextTokenCount text family.tokenizerFamily family.modelHint).isSome = true ∨
    env.encodable text = true

/-- A value whose text can be written and counted. -/
def CountableValue (value : PyValue F) : Prop :=
  Printable env value ∧ Countable env family value.toStr

/-- An object of a content can be counted: as a text, if it is one, and else as JSON. -/
def CountableObject (members : List (String × PyValue F)) : Prop :=
  Printable env (typeMember members) ∧
    (isImageObject env members = false →
      if ["text", "input_text"].contains (env.lower (typeMember members).toStr) = true then
        CountableValue env family (memberOr members "text" (.str ""))
      else Serialisable env (PyValue.dict members))

/-- A part of a content can be counted. -/
def CountablePart : PyValue F → Prop
  | .dict members => CountableObject env family members
  | part => CountableValue env family part

/-- The content of a message can be counted. -/
def CountableContent : PyValue F → Prop
  | .none => True
  | .list parts => ∀ part ∈ parts, CountablePart env family part
  | .dict members => CountableObject env family members
  | content => CountableValue env family content

/-- A message is an object whose texts can be counted and whose fields can be serialised. -/
def CountableMessage (message : PyValue F) : Prop :=
  ∃ members, message = .dict members ∧
    CountableContent env family (memberOr members "content" .none) ∧
    (∀ field ∈ textMessageFields, (memberOr members field .none).truthy = true →
      CountableValue env family (memberOr members field .none)) ∧
    ∀ field ∈ jsonMessageFields, (memberOr members field .none).isNone = false →
      Serialisable env (memberOr members field .none)

/-- Messages that are empty or zero, or a list of messages that can be counted. -/
def CountableMessages (messages : PyValue F) : Prop :=
  messages.truthy = false ∨
    ∃ items, messages = .list items ∧ ∀ message ∈ items, CountableMessage env family message

/-- Messages that can be counted, with tools and a response format that can be serialised. -/
structure CountableRequest (messages tools responseFormat : PyValue F) : Prop where
  messages : CountableMessages env family messages
  tools : tools.truthy = true → Serialisable env tools
  responseFormat : responseFormat.truthy = true → Serialisable env responseFormat

theorem textTokenEstimate_ok_iff (text : String) :
    (∃ count, textTokenEstimate env family text = .ok count) ↔ Countable env family text := by
  unfold textTokenEstimate Countable
  by_cases hempty : text = ""
  · simp [hempty]
  · rw [if_neg hempty]
    cases env.exactTextTokenCount text family.tokenizerFamily family.modelHint with
    | some count => simp
    | none => by_cases hencodable : env.encodable text = true <;> simp [hempty, hencodable]

theorem valueTokens_ok_iff (value : PyValue F) :
    (∃ count, valueTokens env family value = .ok count) ↔ CountableValue env family value := by
  unfold valueTokens CountableValue
  rw [exists_bind_ok_iff]
  constructor
  · rintro ⟨text, htext, hcount⟩
    have hprintable := (strOf_ok_iff env value).mp ⟨text, htext⟩
    rw [strOf_eq env hprintable] at htext
    cases htext
    exact ⟨hprintable, (textTokenEstimate_ok_iff env family _).mp hcount⟩
  · rintro ⟨hprintable, hcount⟩
    exact ⟨_, strOf_eq env hprintable, (textTokenEstimate_ok_iff env family _).mpr hcount⟩

theorem valueTokens_str (text : String) :
    valueTokens (F := F) env family (.str text) = textTokenEstimate env family text := by
  have hprintable : Printable (F := F) env (.str text) := Nat.zero_le _
  rw [valueTokens, strOf_eq env hprintable]
  rfl

theorem jsonTokenEstimate_ok_iff (v : PyValue F) :
    (∃ count, jsonTokenEstimate env family v = .ok count) ↔ Serialisable env v := by
  unfold jsonTokenEstimate Serialisable
  by_cases h : v.nesting ≤ env.room.json <;> simp [h]

/-- What an object of a content counts, once its type is written. -/
theorem objectTokens_eq_ite {members : List (String × PyValue F)}
    (h : Printable env (typeMember members)) :
    objectTokens env family members =
      if isImageObject env members then .ok imageTokenCost
      else if ["text", "input_text"].contains (env.lower (typeMember members).toStr) then
        valueTokens env family (memberOr members "text" (.str ""))
      else jsonTokenEstimate env family (.dict members) := by
  unfold objectTokens
  rw [isImagePart_dict_eq env h, partType_eq env h, ok_bind]
  split <;> rfl

theorem objectTokens_ok_iff (members : List (String × PyValue F)) :
    (∃ count, objectTokens env family members = .ok count) ↔
      CountableObject env family members := by
  unfold CountableObject
  by_cases hprintable : Printable env (typeMember members)
  · rw [objectTokens_eq_ite env family hprintable, and_iff_right hprintable]
    cases isImageObject env members with
    | true => simp
    | false =>
        simp only [Bool.false_eq_true, if_false, forall_const]
        split
        · exact valueTokens_ok_iff env family _
        · exact jsonTokenEstimate_ok_iff env family _
  · refine iff_of_false ?_ fun h => hprintable h.1
    rintro ⟨count, h⟩
    obtain ⟨image, himage, -⟩ := bind_ok_iff.mp h
    exact hprintable ((isImagePart_dict_ok_iff env members).mp ⟨image, himage⟩)

theorem partTokens_ok_iff (part : PyValue F) :
    (∃ count, partTokens env family part = .ok count) ↔ CountablePart env family part := by
  cases part with
  | dict members => exact objectTokens_ok_iff env family members
  | _ => exact valueTokens_ok_iff env family _

theorem estimateMessageContentTokens_ok_iff (content : PyValue F) :
    (∃ count, estimateMessageContentTokens env family content = .ok count) ↔
      CountableContent env family content := by
  cases content with
  | none => exact iff_of_true ⟨0, rfl⟩ trivial
  | list parts =>
      refine foldlM_ok_iff (fun total part => ?_) parts 0
      rw [exists_map_ok_iff, partTokens_ok_iff]
  | dict members => exact objectTokens_ok_iff env family members
  | _ => exact valueTokens_ok_iff env family _

theorem textFieldTokens_ok_iff (members : List (String × PyValue F)) (total : Nat)
    (field : String) :
    (∃ count, textFieldTokens env family members total field = .ok count) ↔
      ((memberOr members field .none).truthy = true →
        CountableValue env family (memberOr members field .none)) := by
  unfold textFieldTokens
  dsimp only
  by_cases htruthy : (memberOr members field .none).truthy = true
  · rw [if_pos htruthy, exists_map_ok_iff, valueTokens_ok_iff]
    exact ⟨fun h _ => h, fun h => h htruthy⟩
  · rw [if_neg htruthy]
    exact iff_of_true ⟨total, rfl⟩ (fun h => absurd h htruthy)

theorem jsonFieldTokens_ok_iff (members : List (String × PyValue F)) (total : Nat)
    (field : String) :
    (∃ count, jsonFieldTokens env family members total field = .ok count) ↔
      ((memberOr members field .none).isNone = false →
        Serialisable env (memberOr members field .none)) := by
  unfold jsonFieldTokens
  dsimp only
  cases hnone : (memberOr members field .none).isNone with
  | true => simp
  | false =>
      simp only [Bool.false_eq_true, if_false, forall_const]
      rw [exists_map_ok_iff, jsonTokenEstimate_ok_iff]

theorem estimateMessageTokens_ok_iff (message : PyValue F) :
    (∃ count, estimateMessageTokens env family message = .ok count) ↔
      CountableMessage env family message := by
  unfold estimateMessageTokens CountableMessage
  cases message with
  | dict members =>
      simp only [PyValue.dict.injEq, exists_eq_left', exists_bind_ok_iff]
      rw [← estimateMessageContentTokens_ok_iff]
      constructor
      · rintro ⟨content, hcontent, total, htotal, hjson⟩
        exact ⟨⟨content, hcontent⟩,
          (foldlM_ok_iff (textFieldTokens_ok_iff env family members) _ _).mp ⟨total, htotal⟩,
          (foldlM_ok_iff (jsonFieldTokens_ok_iff env family members) _ _).mp hjson⟩
      · rintro ⟨⟨content, hcontent⟩, htexts, hjsons⟩
        obtain ⟨total, htotal⟩ :=
          (foldlM_ok_iff (textFieldTokens_ok_iff env family members) textMessageFields
            (messageOverheadTokens + content)).mpr htexts
        exact ⟨content, hcontent, total, htotal,
          (foldlM_ok_iff (jsonFieldTokens_ok_iff env family members) jsonMessageFields
            total).mpr hjsons⟩
  | _ => simp

theorem extraTokens_ok_iff (overheadTokens : Nat) (value : PyValue F) (total : Nat) :
    (∃ count, extraTokens env family overheadTokens value total = .ok count) ↔
      (value.truthy = true → Serialisable env value) := by
  unfold extraTokens
  cases htruthy : value.truthy with
  | false => simp
  | true =>
      simp only [if_true, forall_const]
      rw [exists_map_ok_iff, jsonTokenEstimate_ok_iff]

/-- The loop over the messages returns exactly when they can be counted. -/
theorem messageLoop_ok_iff (messages : PyValue F) :
    (∃ items, (messages.orElse (.list [])).iter = .ok items ∧
        ∃ total, items.foldlM (fun total message =>
            (estimateMessageTokens env family message).map (total + ·))
          requestOverheadTokens = .ok total) ↔
      CountableMessages env family messages := by
  have hloop : ∀ items : List (PyValue F),
      (∃ total, items.foldlM (fun total message =>
          (estimateMessageTokens env family message).map (total + ·))
        requestOverheadTokens = .ok total) ↔
        ∀ message ∈ items, CountableMessage env family message := by
    intro items
    refine foldlM_ok_iff (fun total message => ?_) items requestOverheadTokens
    rw [exists_map_ok_iff, estimateMessageTokens_ok_iff]
  simp only [hloop]
  unfold CountableMessages PyValue.orElse
  cases htruthy : messages.truthy with
  | false => simp [PyValue.iter, PyValue.items?]
  | true =>
      simp only [if_true, Bool.true_eq_false, false_or]
      rcases iter_cases htruthy with ⟨items, rfl, hiter⟩ | ⟨hlist, hother⟩
      · rw [hiter]
        simp
      · refine iff_of_false ?_ ?_
        · rintro ⟨items, hitems, hcountable⟩
          rcases hother with ⟨text, rest, hiter⟩ | hiter
          · rw [hiter] at hitems
            cases hitems
            obtain ⟨members, h, -⟩ := hcountable (.str text) List.mem_cons_self
            cases h
          · exact hiter items hitems
        · rintro ⟨items, h, -⟩
          exact hlist items h

/-- A request can be estimated exactly when its messages can be counted, and its tools and its
response format can be serialised. -/
theorem estimateRequiredTokens_ok_iff (messages tools responseFormat : PyValue F) :
    (∃ tokens, estimateRequiredTokens env family messages tools responseFormat = .ok tokens) ↔
      CountableRequest env family messages tools responseFormat := by
  unfold estimateRequiredTokens
  simp only [exists_bind_ok_iff]
  constructor
  · rintro ⟨items, hitems, total, htotal, extra, hextra, all, hall, -⟩
    exact ⟨(messageLoop_ok_iff env family messages).mp ⟨items, hitems, total, htotal⟩,
      (extraTokens_ok_iff env family _ tools total).mp ⟨extra, hextra⟩,
      (extraTokens_ok_iff env family _ responseFormat extra).mp ⟨all, hall⟩⟩
  · rintro ⟨hmessages, htools, hformat⟩
    obtain ⟨items, hitems, total, htotal⟩ := (messageLoop_ok_iff env family messages).mpr hmessages
    obtain ⟨extra, hextra⟩ :=
      (extraTokens_ok_iff env family toolsOverheadTokens tools total).mpr htools
    obtain ⟨all, hall⟩ :=
      (extraTokens_ok_iff env family structuredOutputOverheadTokens responseFormat extra).mpr
        hformat
    exact ⟨items, hitems, total, htotal, extra, hextra, all, hall, _, rfl⟩

/-! ## On a larger stack -/

section Larger

variable {env family} {small large : StackRoom}

omit [Runtime F] in
theorem Printable.mono (h : small.Below large) {v : PyValue F}
    (hv : Printable (env.within small) v) : Printable (env.within large) v :=
  Nat.le_trans hv h.str

omit [Runtime F] in
theorem Serialisable.mono (h : small.Below large) {v : PyValue F}
    (hv : Serialisable (env.within small) v) : Serialisable (env.within large) v :=
  Nat.le_trans hv h.json

theorem CountableValue.mono (h : small.Below large) {value : PyValue F}
    (hvalue : CountableValue (env.within small) family value) :
    CountableValue (env.within large) family value :=
  ⟨hvalue.1.mono h, hvalue.2⟩

theorem CountableObject.mono (h : small.Below large) {members : List (String × PyValue F)}
    (hmembers : CountableObject (env.within small) family members) :
    CountableObject (env.within large) family members := by
  obtain ⟨htype, hobject⟩ := hmembers
  refine ⟨htype.mono h, fun hno => ?_⟩
  have hobject := hobject hno
  change if ["text", "input_text"].contains (env.lower (typeMember members).toStr) = true
    then _ else _ at hobject
  change if ["text", "input_text"].contains (env.lower (typeMember members).toStr) = true
    then _ else _
  split
  · next htext =>
      rw [if_pos htext] at hobject
      exact hobject.mono h
  · next hjson =>
      rw [if_neg hjson] at hobject
      exact hobject.mono h

theorem CountablePart.mono (h : small.Below large) {part : PyValue F}
    (hpart : CountablePart (env.within small) family part) :
    CountablePart (env.within large) family part := by
  cases part with
  | dict members => exact CountableObject.mono h hpart
  | _ => exact CountableValue.mono h hpart

theorem CountableContent.mono (h : small.Below large) {content : PyValue F}
    (hcontent : CountableContent (env.within small) family content) :
    CountableContent (env.within large) family content := by
  cases content with
  | none => trivial
  | list parts => exact fun part hpart => CountablePart.mono h (hcontent part hpart)
  | dict members => exact CountableObject.mono h hcontent
  | _ => exact CountableValue.mono h hcontent

theorem CountableMessage.mono (h : small.Below large) {message : PyValue F}
    (hmessage : CountableMessage (env.within small) family message) :
    CountableMessage (env.within large) family message := by
  obtain ⟨members, rfl, hcontent, htexts, hjsons⟩ := hmessage
  refine ⟨members, rfl, hcontent.mono h, ?_, ?_⟩
  · exact fun field hfield htruthy => (htexts field hfield htruthy).mono h
  · exact fun field hfield hsome => (hjsons field hfield hsome).mono h

/-- What can be counted with little room can be counted with more. -/
theorem CountableRequest.mono (h : small.Below large) {messages tools responseFormat : PyValue F}
    (hrequest : CountableRequest (env.within small) family messages tools responseFormat) :
    CountableRequest (env.within large) family messages tools responseFormat := by
  refine ⟨?_, fun htruthy => (hrequest.tools htruthy).mono h,
    fun htruthy => (hrequest.responseFormat htruthy).mono h⟩
  rcases hrequest.messages with hfalsy | ⟨items, rfl, hitems⟩
  · exact .inl hfalsy
  · exact .inr ⟨items, rfl, fun message hmessage => (hitems message hmessage).mono h⟩

end Larger

end Estimate

end Tokens
end FreeLunch
