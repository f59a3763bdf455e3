import FreeLunch.Tokens.Charges
import FreeLunch.Tokens.Heuristic

/-!
# Growing requests

What `estimate_required_tokens` of `src/tokens.py` does without a tokenizer library when a request
grows: a message, a part, a field, the tools or the response format comes in, or text is appended
to a text.

Main results:

- Theorem `requestGrows_le`: the charges of a request that grew sum up to at least as much as
  before.
- Theorem `requiredTotal_images`: each image part that comes in raises the total by the price of
  an image.
- Theorem `estimateRequiredTokens_grows`: the estimate does not decrease, and images raise the
  total by their number times that price.

Current gaps:

- The messages are objects, as the estimate needs them to be.
-/

namespace FreeLunch
namespace Tokens

open Python Writes Sums

/-- What is estimated: the messages, the tools and the response format. -/
structure EstimateRequest (F : Type) where
  messages : List (Message F)
  tools : PyValue F
  responseFormat : PyValue F

/-- Two objects have the same members but for one key. -/
def SameBut {F : Type} (key : String) (members larger : Message F) : Prop :=
  ∀ other, other ≠ key → dictGet larger other = dictGet members other

section Growth

variable {F : Type} [Runtime F] (unicode : UnicodeData) (room : StackRoom)

/-! ## Growing -/

/-- Text is appended to a text and leaves it of the same kind. -/
def TextGrows (text longer : String) : Prop :=
  ∃ more, longer = text ++ more ∧
    detectTextContentType unicode text = detectTextContentType unicode longer

/-- Text is appended to the text of a string or of a text part. -/
inductive PartGrows : PyValue F → PyValue F → Prop where
  | string {text longer : String} (h : TextGrows unicode text longer) :
      PartGrows (.str text) (.str longer)
  | object {members larger : Message F} {text longer : String}
      (htype : unicode.lower (memberOr members "type" (.str "")).toStr ∈ ["text", "input_text"])
      (hsame : SameBut "text" members larger)
      (htext : dictGet members "text" = some (.str text))
      (hlonger : dictGet larger "text" = some (.str longer))
      (h : TextGrows unicode text longer) :
      PartGrows (.dict members) (.dict larger)

/-- A part comes into a content, or text is appended to one of its texts. -/
inductive ContentGrows : PyValue F → PyValue F → Prop where
  | insert (before after : List (PyValue F)) (part : PyValue F) :
      ContentGrows (.list (before ++ after)) (.list (before ++ part :: after))
  | part (before after : List (PyValue F)) {part larger : PyValue F}
      (h : PartGrows unicode part larger) :
      ContentGrows (.list (before ++ part :: after)) (.list (before ++ larger :: after))
  | whole {content larger : PyValue F} (h : PartGrows unicode content larger) :
      ContentGrows content larger

/-- The content of a message grows, the message gets a field it lacks, or text is appended to one
of its text fields. -/
inductive MessageGrows : Message F → Message F → Prop where
  | content {members larger : Message F} {content grown : PyValue F}
      (hsame : SameBut "content" members larger)
      (hcontent : dictGet members "content" = some content)
      (hgrown : dictGet larger "content" = some grown)
      (h : ContentGrows unicode content grown) : MessageGrows members larger
  | field {members larger : Message F} (field : String) (hsame : SameBut field members larger)
      (hlacks : dictGet members field = none) : MessageGrows members larger
  | fieldText {members larger : Message F} (field : String) {text longer : String}
      (hfield : field ∈ textMessageFields) (hsame : SameBut field members larger)
      (htext : dictGet members field = some (.str text))
      (hlonger : dictGet larger field = some (.str longer))
      (h : TextGrows unicode text longer) : MessageGrows members larger

/-- A message is appended, a message grows, or the tools or the response format come in. -/
inductive RequestGrows : EstimateRequest F → EstimateRequest F → Prop where
  | append (request : EstimateRequest F) (message : Message F) :
      RequestGrows request { request with messages := request.messages ++ [message] }
  | message (before after : List (Message F)) {members larger : Message F}
      (tools responseFormat : PyValue F) (h : MessageGrows unicode members larger) :
      RequestGrows ⟨before ++ members :: after, tools, responseFormat⟩
        ⟨before ++ larger :: after, tools, responseFormat⟩
  | tools (request : EstimateRequest F) (tools : PyValue F)
      (habsent : request.tools.truthy = false) :
      RequestGrows request { request with tools := tools }
  | responseFormat (request : EstimateRequest F) (responseFormat : PyValue F)
      (habsent : request.responseFormat.truthy = false) :
      RequestGrows request { request with responseFormat := responseFormat }

/-- An image part comes into a list of parts, so many times. -/
inductive ImagesInserted : ℕ → List (PyValue F) → List (PyValue F) → Prop where
  | none (parts : List (PyValue F)) : ImagesInserted 0 parts parts
  | insert {count : ℕ} {parts before after : List (PyValue F)} {part : PyValue F}
      (h : ImagesInserted count parts (before ++ after))
      (himage : isImagePart (heuristicTokenizer unicode room 0) part = .ok true) :
      ImagesInserted (count + 1) parts (before ++ part :: after)

/-! ## Charges that grow -/

variable (safetyBuffer : ℚ) (family : Family)

/-- The charges of one list sum up to at most as much as those of the other. -/
abbrev ChargesLe (charges larger : List (Charge F)) : Prop :=
  AtMost (sumM (Charge.tokens (heuristicTokenizer unicode room safetyBuffer) family))
    (sumM (Charge.tokens (heuristicTokenizer unicode room safetyBuffer) family)) charges larger

omit [Runtime F] in
theorem memberOr_eq_of_sameBut {key other : String} {members larger : Message F}
    (hsame : SameBut key members larger) (hother : other ≠ key) (default : PyValue F) :
    memberOr larger other default = memberOr members other default := by
  unfold memberOr
  rw [hsame other hother]

omit [Runtime F] in
/-- A text that is not empty counts by the heuristic when it can be encoded. -/
theorem textTokenEstimate_heuristic_ok_iff {text : String} (hempty : text ≠ "") {tokens : ℕ} :
    textTokenEstimate (heuristicTokenizer unicode room safetyBuffer) family text = .ok tokens ↔
      text.toList.all unicode.encodable = true ∧
        heuristicTextTokenCount unicode text family.tokenizerFamily = tokens := by
  unfold textTokenEstimate
  rw [if_neg hempty]
  change (if (heuristicTokenizer unicode room safetyBuffer).encodable text = true then
    Except.ok (heuristicTextTokenCount unicode text family.tokenizerFamily) else _) = _ ↔
      (heuristicTokenizer unicode room safetyBuffer).encodable text = true ∧ _
  by_cases hencodable : (heuristicTokenizer unicode room safetyBuffer).encodable text = true
  · rw [if_pos hencodable, Except.ok.injEq]
    exact ⟨fun h => ⟨hencodable, h⟩, fun h => h.2⟩
  · rw [if_neg hencodable]
    exact ⟨fun h => (nomatch h), fun h => absurd h.1 hencodable⟩

/-- A text counts no more than the text it grows to. -/
theorem chargesLe_text {text longer : String} (h : TextGrows unicode text longer) :
    ChargesLe (F := F) unicode room safetyBuffer family [.text (.str text)]
      [.text (.str longer)] := by
  obtain ⟨more, rfl, htype⟩ := h
  intro tokens htokens
  rw [sumM_singleton, Charge.tokens, valueTokens_str] at htokens ⊢
  by_cases hempty : text = ""
  · exact ⟨0, Nat.zero_le _, if_pos hempty⟩
  · have hlonger : text ++ more ≠ "" := by
      intro h
      exact hempty (String.append_eq_empty_iff.mp h).1
    rw [textTokenEstimate_heuristic_ok_iff unicode room safetyBuffer family hlonger,
      String.toList_append, List.all_append, Bool.and_eq_true] at htokens
    obtain ⟨⟨hencodable, -⟩, rfl⟩ := htokens
    refine ⟨_, heuristicTextTokenCount_append unicode htype family.tokenizerFamily, ?_⟩
    rw [textTokenEstimate_heuristic_ok_iff unicode room safetyBuffer family hempty]
    exact ⟨hencodable, rfl⟩

/-- A text part that grows stays a text part. -/
theorem objectCharge_text {members larger : Message F} {text longer : String}
    (htype : unicode.lower (memberOr members "type" (.str "")).toStr ∈ ["text", "input_text"])
    (hsame : SameBut "text" members larger)
    (htext : dictGet members "text" = some (.str text))
    (hlonger : dictGet larger "text" = some (.str longer)) :
    objectCharge (heuristicTokenizer unicode room safetyBuffer) members =
        objectCharge (heuristicTokenizer unicode room safetyBuffer) larger ∨
      (objectCharge (heuristicTokenizer unicode room safetyBuffer) members = .text (.str text) ∧
        objectCharge (heuristicTokenizer unicode room safetyBuffer) larger =
          .text (.str longer)) := by
  have htypes : typeMember larger = typeMember members :=
    memberOr_eq_of_sameBut hsame (by decide) _
  have himages : isImageObject (heuristicTokenizer unicode room safetyBuffer) larger =
      isImageObject (heuristicTokenizer unicode room safetyBuffer) members := by
    unfold isImageObject isImageType
    rw [htypes, hsame "image_url" (by decide), hsame "input_image" (by decide)]
  have hcontains : ["text", "input_text"].contains
      ((heuristicTokenizer unicode room safetyBuffer).lower (typeMember members).toStr) = true := by
    rw [List.contains_iff_mem]
    exact htype
  unfold objectCharge
  rw [himages, htypes, hcontains]
  split
  · cases isImageObject (heuristicTokenizer unicode room safetyBuffer) members with
    | true => exact .inl rfl
    | false =>
        refine .inr ⟨?_, ?_⟩
        · simp [memberOr, htext]
        · simp [memberOr, hlonger]
  · exact .inl rfl

theorem chargesLe_part {part larger : PyValue F} (h : PartGrows unicode part larger) :
    ChargesLe unicode room safetyBuffer family
      [partCharge (heuristicTokenizer unicode room safetyBuffer) part]
      [partCharge (heuristicTokenizer unicode room safetyBuffer) larger] := by
  cases h with
  | string h => exact chargesLe_text unicode room safetyBuffer family h
  | object htype hsame htext hlonger h =>
      unfold partCharge
      dsimp only
      rcases objectCharge_text unicode room safetyBuffer htype hsame htext hlonger with
        hequal | ⟨hmembers, hlarger⟩
      · rw [hequal]
        exact atMost_refl _ _
      · rw [hmembers, hlarger]
        exact chargesLe_text unicode room safetyBuffer family h

theorem contentCharges_of_partGrows {content larger : PyValue F}
    (h : PartGrows unicode content larger) :
    contentCharges (heuristicTokenizer unicode room safetyBuffer) content =
        [partCharge (heuristicTokenizer unicode room safetyBuffer) content] ∧
      contentCharges (heuristicTokenizer unicode room safetyBuffer) larger =
        [partCharge (heuristicTokenizer unicode room safetyBuffer) larger] := by
  cases h with
  | string _ => exact ⟨rfl, rfl⟩
  | object _ _ _ _ _ => exact ⟨rfl, rfl⟩

theorem chargesLe_content {content larger : PyValue F} (h : ContentGrows unicode content larger) :
    ChargesLe unicode room safetyBuffer family
      (contentCharges (heuristicTokenizer unicode room safetyBuffer) content)
      (contentCharges (heuristicTokenizer unicode room safetyBuffer) larger) := by
  cases h with
  | insert before after part =>
      refine sumM_le_of_sublist (List.Sublist.map _ ?_)
      exact (List.Sublist.refl before).append (List.sublist_cons_self part after)
  | part before after h =>
      unfold contentCharges
      dsimp only
      rw [List.map_append, List.map_append, List.map_cons, List.map_cons]
      refine sumM_le_append (atMost_refl _ _) ?_
      exact sumM_le_append (l := [_]) (r := [_]) (chargesLe_part unicode room safetyBuffer family h)
        (atMost_refl _ _)
  | whole h =>
      obtain ⟨hcontent, hlarger⟩ := contentCharges_of_partGrows unicode room safetyBuffer h
      rw [hcontent, hlarger]
      exact chargesLe_part unicode room safetyBuffer family h

theorem messageCharges_le {members larger : Message F}
    (hcontent : ChargesLe unicode room safetyBuffer family
      (contentCharges (heuristicTokenizer unicode room safetyBuffer)
        (memberOr members "content" .none))
      (contentCharges (heuristicTokenizer unicode room safetyBuffer)
        (memberOr larger "content" .none)))
    (htexts : ∀ field ∈ textMessageFields, ChargesLe unicode room safetyBuffer family
      (textFieldCharges members field) (textFieldCharges larger field))
    (hjsons : ∀ field ∈ jsonMessageFields, ChargesLe unicode room safetyBuffer family
      (jsonFieldCharges members field) (jsonFieldCharges larger field)) :
    ChargesLe unicode room safetyBuffer family
      (messageCharges (heuristicTokenizer unicode room safetyBuffer) members)
      (messageCharges (heuristicTokenizer unicode room safetyBuffer) larger) := by
  unfold messageCharges
  refine sumM_le_append (sumM_le_append ?_ (sumM_le_flatMap htexts)) (sumM_le_flatMap hjsons)
  exact sumM_le_append (l := [_]) (r := [_]) (atMost_refl _ _) hcontent

/-- A field that no message has charges nothing. -/
theorem chargesLe_nil (charges : List (Charge F)) :
    ChargesLe unicode room safetyBuffer family [] charges :=
  sumM_le_of_sublist (List.nil_sublist charges)

theorem textFieldCharges_of_sameBut {key field : String} {members larger : Message F}
    (hsame : SameBut key members larger) (hfield : field ≠ key) :
    textFieldCharges larger field = textFieldCharges members field := by
  unfold textFieldCharges
  rw [memberOr_eq_of_sameBut hsame hfield]

omit [Runtime F] in
theorem jsonFieldCharges_of_sameBut {key field : String} {members larger : Message F}
    (hsame : SameBut key members larger) (hfield : field ≠ key) :
    jsonFieldCharges larger field = jsonFieldCharges members field := by
  unfold jsonFieldCharges
  rw [memberOr_eq_of_sameBut hsame hfield]

/-- A text field whose text grows. -/
theorem chargesLe_textField {members larger : Message F} {field text longer : String}
    (htext : dictGet members field = some (.str text))
    (hlonger : dictGet larger field = some (.str longer)) (h : TextGrows unicode text longer) :
    ChargesLe unicode room safetyBuffer family (textFieldCharges members field)
      (textFieldCharges larger field) := by
  unfold textFieldCharges memberOr
  rw [htext, hlonger]
  dsimp only [Option.getD_some]
  by_cases hempty : text = ""
  · rw [hempty]
    exact chargesLe_nil unicode room safetyBuffer family _
  · have hnot : longer ≠ "" := by
      obtain ⟨more, rfl, -⟩ := h
      intro h
      exact hempty (String.append_eq_empty_iff.mp h).1
    rw [if_pos (by simpa [PyValue.truthy] using hempty),
      if_pos (by simpa [PyValue.truthy] using hnot)]
    exact sumM_le_append (l := [_]) (r := [_]) (atMost_refl _ _)
      (chargesLe_text unicode room safetyBuffer family h)

/-- A message that grew counts at least as much as before. -/
theorem messageGrows_le {members larger : Message F} (h : MessageGrows unicode members larger) :
    ChargesLe unicode room safetyBuffer family
      (messageCharges (heuristicTokenizer unicode room safetyBuffer) members)
      (messageCharges (heuristicTokenizer unicode room safetyBuffer) larger) := by
  cases h with
  | content hsame hcontent hgrown h =>
      apply messageCharges_le
      · unfold memberOr
        rw [hcontent, hgrown]
        exact chargesLe_content unicode room safetyBuffer family h
      · intro field hfield
        have hne : field ≠ "content" := by
          rintro rfl
          exact absurd hfield (by decide)
        rw [textFieldCharges_of_sameBut hsame hne]
        exact atMost_refl _ _
      · intro field hfield
        have hne : field ≠ "content" := by
          rintro rfl
          exact absurd hfield (by decide)
        rw [jsonFieldCharges_of_sameBut hsame hne]
        exact atMost_refl _ _
  | field key hsame hlacks =>
      have hnone : memberOr members key .none = .none := by
        rw [memberOr, hlacks, Option.getD_none]
      apply messageCharges_le
      · by_cases hkey : "content" = key
        · rw [hkey, hnone]
          exact chargesLe_nil unicode room safetyBuffer family _
        · rw [memberOr_eq_of_sameBut hsame hkey]
          exact atMost_refl _ _
      · intro field _
        by_cases hkey : field = key
        · have hcharges : textFieldCharges members field = [] := by
            rw [textFieldCharges, hkey, hnone]
            rfl
          rw [hcharges]
          exact chargesLe_nil unicode room safetyBuffer family _
        · rw [textFieldCharges_of_sameBut hsame hkey]
          exact atMost_refl _ _
      · intro field _
        by_cases hkey : field = key
        · have hcharges : jsonFieldCharges members field = [] := by
            rw [jsonFieldCharges, hkey, hnone]
            rfl
          rw [hcharges]
          exact chargesLe_nil unicode room safetyBuffer family _
        · rw [jsonFieldCharges_of_sameBut hsame hkey]
          exact atMost_refl _ _
  | fieldText key hfield hsame htext hlonger h =>
      have hcontent : "content" ≠ key := by
        rintro rfl
        exact absurd hfield (by decide)
      apply messageCharges_le
      · rw [memberOr_eq_of_sameBut hsame hcontent]
        exact atMost_refl _ _
      · intro field _
        by_cases hkey : field = key
        · rw [hkey]
          exact chargesLe_textField unicode room safetyBuffer family htext hlonger h
        · rw [textFieldCharges_of_sameBut hsame hkey]
          exact atMost_refl _ _
      · intro field hjson
        have hne : field ≠ key := by
          rintro rfl
          have hdisjoint : ∀ key ∈ textMessageFields, key ∉ jsonMessageFields := by decide
          exact hdisjoint _ hfield hjson
        rw [jsonFieldCharges_of_sameBut hsame hne]
        exact atMost_refl _ _

/-! ## Requests that grow -/

/-- The charges of a request. -/
def EstimateRequest.charges (request : EstimateRequest F) : List (Charge F) :=
  requestCharges (heuristicTokenizer unicode room safetyBuffer) request.messages request.tools
    request.responseFormat

theorem requestCharges_le {request larger : EstimateRequest F}
    (hmessages : ChargesLe unicode room safetyBuffer family
      (request.messages.flatMap (messageCharges (heuristicTokenizer unicode room safetyBuffer)))
      (larger.messages.flatMap (messageCharges (heuristicTokenizer unicode room safetyBuffer))))
    (htools : ChargesLe unicode room safetyBuffer family
      (extraCharges toolsOverheadTokens request.tools)
      (extraCharges toolsOverheadTokens larger.tools))
    (hformat : ChargesLe unicode room safetyBuffer family
      (extraCharges structuredOutputOverheadTokens request.responseFormat)
      (extraCharges structuredOutputOverheadTokens larger.responseFormat)) :
    ChargesLe unicode room safetyBuffer family (request.charges unicode room safetyBuffer)
      (larger.charges unicode room safetyBuffer) := by
  unfold EstimateRequest.charges requestCharges
  refine sumM_le_append (sumM_le_append ?_ htools) hformat
  exact sumM_le_append (l := [_]) (r := [_]) (atMost_refl _ _) hmessages

theorem extraCharges_of_not_truthy (overheadTokens : Nat) {value : PyValue F}
    (h : value.truthy = false) : extraCharges overheadTokens value = [] := by
  rw [extraCharges, h]
  rfl

/-- The charges of a request that grew sum up to at least as much as before. -/
theorem requestGrows_le {request larger : EstimateRequest F}
    (h : RequestGrows unicode request larger) :
    ChargesLe unicode room safetyBuffer family (request.charges unicode room safetyBuffer)
      (larger.charges unicode room safetyBuffer) := by
  cases h with
  | append _ message =>
      apply requestCharges_le
      · rw [List.flatMap_append]
        exact sumM_le_of_sublist (List.sublist_append_left _ _)
      · exact atMost_refl _ _
      · exact atMost_refl _ _
  | message before after tools responseFormat h =>
      apply requestCharges_le
      · rw [List.flatMap_append, List.flatMap_append, List.flatMap_cons, List.flatMap_cons]
        refine sumM_le_append (atMost_refl _ _) ?_
        exact sumM_le_append (messageGrows_le unicode room safetyBuffer family h) (atMost_refl _ _)
      · exact atMost_refl _ _
      · exact atMost_refl _ _
  | tools _ tools habsent =>
      apply requestCharges_le
      · exact atMost_refl _ _
      · rw [extraCharges_of_not_truthy _ habsent]
        exact chargesLe_nil unicode room safetyBuffer family _
      · exact atMost_refl _ _
  | responseFormat _ responseFormat habsent =>
      apply requestCharges_le
      · exact atMost_refl _ _
      · exact atMost_refl _ _
      · rw [extraCharges_of_not_truthy _ habsent]
        exact chargesLe_nil unicode room safetyBuffer family _

/-! ## Images that come in -/

theorem partCharge_of_isImagePart {part : PyValue F}
    (h : isImagePart (heuristicTokenizer unicode room 0) part = .ok true) :
    partCharge (heuristicTokenizer unicode room safetyBuffer) part = .image := by
  cases part with
  | dict members =>
      have hprintable := (isImagePart_dict_ok_iff _ members).mp ⟨true, h⟩
      rw [isImagePart_dict_eq _ hprintable] at h
      have himage := Except.ok.inj h
      exact (if_pos hprintable).trans (if_pos himage)
  | _ => cases h

/-- The images that come in raise the sum around them by their number times the price. -/
theorem sumM_imagesInserted (front rest : List (Charge F)) {count : ℕ}
    {parts grown : List (PyValue F)} (h : ImagesInserted unicode room count parts grown) :
    sumM (Charge.tokens (heuristicTokenizer unicode room safetyBuffer) family)
        (front ++ grown.map (partCharge (heuristicTokenizer unicode room safetyBuffer)) ++ rest) =
      (sumM (Charge.tokens (heuristicTokenizer unicode room safetyBuffer) family)
        (front ++ parts.map (partCharge (heuristicTokenizer unicode room safetyBuffer)) ++ rest)).map
          (· + count * imageTokenCost) := by
  induction h with
  | none parts =>
      cases sumM (Charge.tokens (heuristicTokenizer unicode room safetyBuffer) family) (front ++
        parts.map (partCharge (heuristicTokenizer unicode room safetyBuffer)) ++ rest) <;>
          simp [Except.map]
  | @insert count parts before after part _ himage ih =>
      have hprice : (partCharge (heuristicTokenizer unicode room safetyBuffer) part).tokens
          (heuristicTokenizer unicode room safetyBuffer) family = .ok imageTokenCost := by
        rw [partCharge_of_isImagePart unicode room safetyBuffer himage]
        rfl
      rw [List.map_append, ← List.append_assoc, List.append_assoc _ _ rest] at ih
      rw [List.map_append, List.map_cons, ← List.append_assoc, List.append_assoc _ _ rest,
        List.cons_append, sumM_insert hprice, ih]
      cases sumM (Charge.tokens (heuristicTokenizer unicode room safetyBuffer) family) (front ++
        parts.map (partCharge (heuristicTokenizer unicode room safetyBuffer)) ++ rest) with
      | error exc => rfl
      | ok total =>
          simp only [Except.map, Except.ok.injEq]
          rw [Nat.succ_mul, Nat.add_assoc]

/-- What the charges of a message hold after those of its content. -/
def fieldCharges (members : Message F) : List (Charge F) :=
  textMessageFields.flatMap (textFieldCharges members) ++
    jsonMessageFields.flatMap (jsonFieldCharges members)

theorem fieldCharges_of_sameBut {members larger : Message F}
    (hsame : SameBut "content" members larger) : fieldCharges larger = fieldCharges members := by
  have hne : ∀ field ∈ textMessageFields ++ jsonMessageFields, field ≠ "content" := by decide
  unfold fieldCharges
  rw [List.flatMap_congr fun field hfield => textFieldCharges_of_sameBut hsame
      (hne field (List.mem_append_left _ hfield)),
    List.flatMap_congr fun field hfield => jsonFieldCharges_of_sameBut hsame
      (hne field (List.mem_append_right _ hfield))]

/-- The charges of a content stand in one piece in those of the request. -/
theorem requestCharges_content (env : Tokenizer) (before after : List (Message F))
    (members : Message F) (tools responseFormat : PyValue F) :
    requestCharges env (before ++ members :: after) tools responseFormat =
      (.overhead requestOverheadTokens :: before.flatMap (messageCharges env) ++
          [.overhead messageOverheadTokens]) ++
        contentCharges env (memberOr members "content" .none) ++
          (fieldCharges members ++ after.flatMap (messageCharges env) ++
            extraCharges toolsOverheadTokens tools ++
              extraCharges structuredOutputOverheadTokens responseFormat) := by
  unfold requestCharges fieldCharges
  rw [List.flatMap_append, List.flatMap_cons, messageCharges]
  simp only [List.append_assoc, List.cons_append, List.nil_append]

/-- Each image part that comes into a content raises the total by the price of an image. -/
theorem requiredTotal_images (before after : List (Message F)) {members larger : Message F}
    {count : ℕ} {parts grown : List (PyValue F)} (hsame : SameBut "content" members larger)
    (hparts : dictGet members "content" = some (.list parts))
    (hgrown : dictGet larger "content" = some (.list grown))
    (h : ImagesInserted unicode room count parts grown) (tools responseFormat : PyValue F) :
    requiredTotal (heuristicTokenizer unicode room safetyBuffer) family (before ++ larger :: after)
        tools responseFormat =
      (requiredTotal (heuristicTokenizer unicode room safetyBuffer) family
        (before ++ members :: after) tools responseFormat).map (· + count * imageTokenCost) := by
  unfold requiredTotal
  rw [requestCharges_content, requestCharges_content, fieldCharges_of_sameBut hsame]
  unfold memberOr
  rw [hparts, hgrown]
  exact sumM_imagesInserted unicode room safetyBuffer family _ _ h

/-! ## Estimates that grow -/

/-- `estimate_required_tokens` without a tokenizer library. -/
def EstimateRequest.estimate (request : EstimateRequest F) : Except Exc Int :=
  estimateRequiredTokens (heuristicTokenizer unicode room safetyBuffer) family
    (.list (request.messages.map .dict)) request.tools request.responseFormat

/-- The estimate is a total with the safety buffer.  It is at least the one before when the
request grew, and image parts that come into a content raise the total by their number times the
price of an image. -/
theorem estimateRequiredTokens_grows {safetyBuffer : ℚ} (hbuffer : 0 ≤ safetyBuffer) :
    (∀ request : EstimateRequest F, request.estimate unicode room safetyBuffer family =
      (requiredTotal (heuristicTokenizer unicode room safetyBuffer) family request.messages
        request.tools request.responseFormat).map
          fun total : ℕ => max ⌈(total : ℚ) * (1 + safetyBuffer)⌉ 1) ∧
    (∀ {request larger : EstimateRequest F}, RequestGrows unicode request larger →
      ∀ after, larger.estimate unicode room safetyBuffer family = .ok after →
        ∃ before ≤ after, request.estimate unicode room safetyBuffer family = .ok before) ∧
      ∀ (before after : List (Message F)) {members larger : Message F} {count : ℕ}
        {parts grown : List (PyValue F)}, SameBut "content" members larger →
        dictGet members "content" = some (.list parts) →
        dictGet larger "content" = some (.list grown) →
        ImagesInserted unicode room count parts grown → ∀ tools responseFormat : PyValue F,
          requiredTotal (heuristicTokenizer unicode room safetyBuffer) family
              (before ++ larger :: after) tools responseFormat =
            (requiredTotal (heuristicTokenizer unicode room safetyBuffer) family
              (before ++ members :: after) tools responseFormat).map
                (· + count * imageTokenCost) := by
  refine ⟨?_, ?_, ?_⟩
  · intro request
    exact estimateRequiredTokens_eq _ family request.messages request.tools request.responseFormat
  · intro request larger h after hafter
    unfold EstimateRequest.estimate at hafter ⊢
    rw [estimateRequiredTokens_eq, map_ok_iff] at hafter
    obtain ⟨total, htotal, rfl⟩ := hafter
    obtain ⟨smaller, hle, hsmaller⟩ :=
      requestGrows_le unicode room safetyBuffer family h total htotal
    refine ⟨_, heuristicTokenizer_withSafetyBuffer_mono unicode hbuffer hle, ?_⟩
    rw [estimateRequiredTokens_eq, map_ok_iff]
    exact ⟨smaller, hsmaller, rfl⟩
  · intro before after members larger count parts grown hsame hparts hgrown h tools responseFormat
    exact requiredTotal_images unicode room safetyBuffer family before after hsame hparts hgrown h
      tools responseFormat

end Growth

/-! ## Samples -/

/-- Unicode restricted to ASCII. -/
def asciiData : UnicodeData where
  lower := fun text => String.ofList (lowerAscii text.toList)
  isAlnum := Char.isAlphanum
  encodable := fun c => c.toNat < 0x80

/-- An image part. -/
def imagePart : PyValue Exact :=
  .dict [("type", .str "image_url")]

/-- A message comes into an empty request, and an image into a message without parts. -/
theorem message_and_image_come_in :
    (∀ after, (EstimateRequest.mk [[("content", .list [imagePart])]] .none .none).estimate
        asciiData ⟨1000, 1000⟩ 0.15 ⟨"claude", ""⟩ = .ok after →
      ∃ before ≤ after, (EstimateRequest.mk ([] : List (Message Exact)) .none .none).estimate
        asciiData ⟨1000, 1000⟩ 0.15 ⟨"claude", ""⟩ = .ok before) ∧
      requiredTotal (heuristicTokenizer asciiData ⟨1000, 1000⟩ 0.15) ⟨"claude", ""⟩
          [[("content", .list [imagePart])]] .none .none =
        (requiredTotal (heuristicTokenizer asciiData ⟨1000, 1000⟩ 0.15) ⟨"claude", ""⟩
          [[("content", PyValue.list ([] : List (PyValue Exact)))]] .none .none).map
            (· + 1 * imageTokenCost) := by
  have hbuffer : (0 : ℚ) ≤ 0.15 := by norm_num
  have hsame : SameBut "content" [("content", PyValue.list ([] : List (PyValue Exact)))]
      [("content", .list [imagePart])] := by
    intro other hother
    rw [dictGet_cons, dictGet_cons, if_neg hother.symm, if_neg hother.symm]
  refine ⟨?_, ?_⟩
  · exact (estimateRequiredTokens_grows asciiData ⟨1000, 1000⟩ ⟨"claude", ""⟩ hbuffer).2.1
      (.append ⟨[], .none, .none⟩ [("content", .list [imagePart])])
  · have hinserted : ImagesInserted asciiData ⟨1000, 1000⟩ 1 [] ([] ++ imagePart :: []) :=
      .insert (.none []) (by decide +kernel)
    exact (estimateRequiredTokens_grows asciiData ⟨1000, 1000⟩ ⟨"claude", ""⟩ hbuffer).2.2 [] []
      hsame rfl rfl hinserted .none .none

end Tokens
end FreeLunch
