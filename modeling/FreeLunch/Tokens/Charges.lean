import FreeLunch.Foundations.Sums
import FreeLunch.Python.Exact
import FreeLunch.Tokens.Estimate

/-!
# The charges of a token estimate

`estimate_required_tokens` of `src/tokens.py` read as a list of charges, one for each number the
estimate adds: the overheads, the images, the texts and the values that are written as JSON.

Main results:

- Theorem `estimateRequiredTokens_eq`: the estimate is the sum of the charges.
- Theorem `requestContainsVision_eq`: the search for images stops at the first charge that is
  an image or a type that cannot be written.
- Theorem `vision_iff_charged_iff`: the estimate gets to an image that is found exactly when
  everything ahead of it can be counted.

Current gaps:

- The messages are objects, as the estimate needs them to be.
- The search and the estimate have the same stack left.
-/

namespace FreeLunch
namespace Tokens

open Python Writes Sums

/-- The members of a message. -/
abbrev Message (F : Type) := List (String × PyValue F)

/-- What the estimate adds to its total at one place. -/
inductive Charge (F : Type) where
  | overhead (tokens : Nat)
  /-- `total += IMAGE_TOKEN_COST`. -/
  | image
  /-- `str(part.get("type", ""))`, where it runs out of stack. -/
  | kind (type : PyValue F)
  /-- `_text_token_estimate(str(value))`. -/
  | text (value : PyValue F)
  /-- `_json_token_estimate(value)`. -/
  | json (value : PyValue F)

section Charges

variable {F : Type} [Runtime F] (env : Tokenizer) (family : Family)

/-! ## Charges -/

/-- The number of tokens of a charge. -/
def Charge.tokens (charge : Charge F) : Except Exc Nat :=
  match charge with
  | .overhead tokens => .ok tokens
  | .image => .ok imageTokenCost
  | .kind type => (strOf env type).map fun _ => 0
  | .text value => valueTokens env family value
  | .json value => jsonTokenEstimate env family value

omit [Runtime F] in
/-- An image is charged. -/
def Charge.isImage : Charge F → Bool
  | .image => true
  | _ => false

instance (v : PyValue F) : Decidable (Printable env v) :=
  inferInstanceAs (Decidable (_ ≤ _))

/-- The charge of an object of a content. -/
def objectCharge (members : List (String × PyValue F)) : Charge F :=
  if Printable env (typeMember members) then
    if isImageObject env members then .image
    else if ["text", "input_text"].contains (env.lower (typeMember members).toStr) then
      .text (memberOr members "text" (.str ""))
    else .json (.dict members)
  else .kind (typeMember members)

/-- The charge of a part of a content. -/
def partCharge (part : PyValue F) : Charge F :=
  match part with
  | .dict members => objectCharge env members
  | part => .text part

/-- The charges of `_estimate_message_content_tokens`. -/
def contentCharges (content : PyValue F) : List (Charge F) :=
  match content with
  | .none => []
  | .list parts => parts.map (partCharge env)
  | .dict members => [objectCharge env members]
  | content => [.text content]

/-- The charges of a field of `_TEXT_MESSAGE_FIELDS`. -/
def textFieldCharges (members : Message F) (field : String) : List (Charge F) :=
  let value := memberOr members field .none
  if value.truthy then [.overhead messageMetadataOverheadTokens, .text value] else []

omit [Runtime F] in
/-- The charges of a field of `_JSON_MESSAGE_FIELDS`. -/
def jsonFieldCharges (members : Message F) (field : String) : List (Charge F) :=
  let value := memberOr members field .none
  if value.isNone then [] else [.overhead messageMetadataOverheadTokens, .json value]

/-- The charges of `_estimate_message_tokens`. -/
def messageCharges (members : Message F) : List (Charge F) :=
  .overhead messageOverheadTokens :: contentCharges env (memberOr members "content" .none) ++
    textMessageFields.flatMap (textFieldCharges members) ++
    jsonMessageFields.flatMap (jsonFieldCharges members)

/-- The charges of the tools or of the response format. -/
def extraCharges (overheadTokens : Nat) (value : PyValue F) : List (Charge F) :=
  if value.truthy then [.overhead overheadTokens, .json value] else []

/-- The charges of `estimate_required_tokens`. -/
def requestCharges (messages : List (Message F)) (tools responseFormat : PyValue F) :
    List (Charge F) :=
  .overhead requestOverheadTokens :: messages.flatMap (messageCharges env) ++
    extraCharges toolsOverheadTokens tools ++
    extraCharges structuredOutputOverheadTokens responseFormat

/-- The total of `estimate_required_tokens` before the safety buffer. -/
def requiredTotal (messages : List (Message F)) (tools responseFormat : PyValue F) :
    Except Exc Nat :=
  sumM (Charge.tokens env family) (requestCharges env messages tools responseFormat)

/-! ## The estimate is their sum -/

theorem objectTokens_eq (members : List (String × PyValue F)) :
    objectTokens env family members = (objectCharge env members).tokens env family := by
  unfold objectCharge
  by_cases h : Printable env (typeMember members)
  · rw [objectTokens_eq_ite env family h, if_pos h]
    split
    · rfl
    · split <;> rfl
  · rw [if_neg h, objectTokens, isImagePart, partType, Charge.tokens, strOf_of_deep env h]
    rfl

theorem partTokens_eq (part : PyValue F) :
    partTokens env family part = (partCharge env part).tokens env family := by
  cases part with
  | dict members => exact objectTokens_eq env family members
  | _ => rfl

theorem sumM_singleton (charge : Charge F) :
    sumM (Charge.tokens env family) [charge] = charge.tokens env family := by
  rw [sumM]
  cases charge.tokens env family <;> rfl

theorem estimateMessageContentTokens_eq (content : PyValue F) :
    estimateMessageContentTokens env family content =
      sumM (Charge.tokens env family) (contentCharges env content) := by
  have hzero : ∀ x : Except Exc Nat, x.map (0 + ·) = x := by
    intro x
    cases x <;> simp [Except.map]
  unfold estimateMessageContentTokens contentCharges
  cases content with
  | none => rfl
  | list parts =>
      simp only [foldlM_add, sumM_map, hzero, partTokens_eq]
  | dict members =>
      rw [sumM_singleton]
      exact objectTokens_eq env family members
  | _ => exact (sumM_singleton env family (.text _ : Charge F)).symm

theorem textFieldTokens_eq (members : Message F) (total : Nat) (field : String) :
    textFieldTokens env family members total field =
      (sumM (Charge.tokens env family) (textFieldCharges members field)).map (total + ·) := by
  unfold textFieldTokens textFieldCharges
  dsimp only
  split
  · rw [sumM, Charge.tokens, sumM_singleton, Charge.tokens]
    cases valueTokens env family (memberOr members field .none) <;>
      simp [Except.map, Nat.add_assoc]
  · rfl

theorem jsonFieldTokens_eq (members : Message F) (total : Nat) (field : String) :
    jsonFieldTokens env family members total field =
      (sumM (Charge.tokens env family) (jsonFieldCharges members field)).map (total + ·) := by
  unfold jsonFieldTokens jsonFieldCharges
  dsimp only
  split
  · rfl
  · rw [sumM, Charge.tokens, sumM_singleton, Charge.tokens]
    cases jsonTokenEstimate env family (memberOr members field .none) <;>
      simp [Except.map, Nat.add_assoc]

/-- Adding up one after the other is adding up the charges one after the other. -/
theorem sumM_append_map (l m : List (Charge F)) (total : Nat) :
    (sumM (Charge.tokens env family) (l ++ m)).map (total + ·) =
      (sumM (Charge.tokens env family) l).map (total + ·) >>= fun total =>
        (sumM (Charge.tokens env family) m).map (total + ·) := by
  rw [sumM_append]
  cases sumM (Charge.tokens env family) l with
  | error exc => rfl
  | ok n =>
      cases sumM (Charge.tokens env family) m <;>
        simp [bind, Except.bind, Except.map, Nat.add_assoc]

/-- Fields that are added up one after the other are added up as their charges. -/
theorem fields_eq {step : Nat → String → Except Exc Nat} {charges : String → List (Charge F)}
    (hstep : ∀ total field, step total field =
      (sumM (Charge.tokens env family) (charges field)).map (total + ·))
    (fields : List String) (total : Nat) :
    fields.foldlM step total =
      (sumM (Charge.tokens env family) (fields.flatMap charges)).map (total + ·) := by
  induction fields generalizing total with
  | nil => rfl
  | cons field rest ih =>
      rw [List.foldlM_cons, List.flatMap_cons, sumM_append_map, hstep]
      exact congrArg _ (funext fun total => ih total)

theorem estimateMessageTokens_eq (members : Message F) :
    estimateMessageTokens env family (.dict members) =
      sumM (Charge.tokens env family) (messageCharges env members) := by
  unfold estimateMessageTokens messageCharges
  rw [List.cons_append, List.cons_append, List.append_assoc, sumM, Charge.tokens]
  dsimp only
  rw [sumM_append_map, estimateMessageContentTokens_eq]
  cases sumM (Charge.tokens env family)
      (contentCharges env (memberOr members "content" .none)) with
  | error exc => rfl
  | ok content =>
      refine Eq.trans ?_
        (sumM_append_map env family _ _ (messageOverheadTokens + content)).symm
      rw [ok_bind, fields_eq env family (textFieldTokens_eq env family members)]
      exact congrArg _ (funext fun total =>
        fields_eq env family (jsonFieldTokens_eq env family members) jsonMessageFields total)

theorem extraTokens_eq (overheadTokens : Nat) (value : PyValue F) (total : Nat) :
    extraTokens env family overheadTokens value total =
      (sumM (Charge.tokens env family) (extraCharges overheadTokens value)).map (total + ·) := by
  unfold extraTokens extraCharges
  split
  · rw [sumM, Charge.tokens, sumM_singleton, Charge.tokens]
    cases jsonTokenEstimate env family value <;> simp [Except.map, Nat.add_assoc]
  · rfl

/-- The estimate is the sum of the charges, with the safety buffer. -/
theorem estimateRequiredTokens_eq (messages : List (Message F))
    (tools responseFormat : PyValue F) :
    estimateRequiredTokens env family (.list (messages.map .dict)) tools responseFormat =
      (requiredTotal env family messages tools responseFormat).map env.withSafetyBuffer := by
  have hitems : ((PyValue.list (messages.map PyValue.dict)).orElse (.list [])).iter =
      .ok (messages.map PyValue.dict) := by
    cases messages <;> rfl
  have hloop : (messages.map PyValue.dict).foldlM
      (fun total message => (estimateMessageTokens env family message).map (total + ·))
        requestOverheadTokens =
      (sumM (Charge.tokens env family) (messages.flatMap (messageCharges env))).map
        (requestOverheadTokens + ·) := by
    rw [foldlM_add, sumM_map, sumM_flatMap]
    simp only [estimateMessageTokens_eq]
  unfold estimateRequiredTokens requiredTotal requestCharges
  rw [hitems, ok_bind, hloop, List.cons_append, List.cons_append, sumM, Charge.tokens]
  dsimp only
  rw [sumM_append_map, sumM_append_map]
  cases (sumM (Charge.tokens env family) (messages.flatMap (messageCharges env))).map
      (requestOverheadTokens + ·) with
  | error exc => rfl
  | ok total =>
      rw [ok_bind, ok_bind, extraTokens_eq]
      cases (sumM (Charge.tokens env family) (extraCharges toolsOverheadTokens tools)).map
          (total + ·) with
      | error exc => rfl
      | ok total =>
          rw [ok_bind, ok_bind, extraTokens_eq]
          cases (sumM (Charge.tokens env family)
              (extraCharges structuredOutputOverheadTokens responseFormat)).map (total + ·) <;> rfl

/-! ## Images -/

/-- The search for images along the charges: it ends at an image and writes every type it
comes to. -/
def searchCharges : List (Charge F) → Except Exc Bool
  | [] => .ok false
  | .image :: _ => .ok true
  | .kind type :: rest => do
      let _ ← strOf env type
      searchCharges rest
  | _ :: rest => searchCharges rest

theorem searchCharges_overhead (tokens : Nat) (rest : List (Charge F)) :
    searchCharges env (.overhead tokens :: rest) = searchCharges env rest :=
  rfl

theorem searchCharges_append (l m : List (Charge F)) :
    searchCharges env (l ++ m) = (do
      if ← searchCharges env l then return true
      searchCharges env m) := by
  induction l with
  | nil => rfl
  | cons charge rest ih =>
      cases charge with
      | image => rfl
      | kind type =>
          rw [List.cons_append, searchCharges, searchCharges, ih]
          cases strOf env type <;> rfl
      | _ => exact ih

/-- Charges without images and types are passed over. -/
theorem searchCharges_of_forall {l : List (Charge F)}
    (h : ∀ charge ∈ l, charge.isImage = false ∧ ∀ type, charge ≠ .kind type) (m : List (Charge F)) :
    searchCharges env (l ++ m) = searchCharges env m := by
  induction l with
  | nil => rfl
  | cons charge rest ih =>
      rw [List.forall_mem_cons] at h
      cases charge with
      | image => cases h.1.1
      | kind type => exact absurd rfl (h.1.2 type)
      | _ => exact ih h.2

/-- The search of an object is the search of its charge. -/
theorem isImagePart_dict (members : List (String × PyValue F)) :
    isImagePart env (.dict members) = searchCharges env [objectCharge env members] := by
  unfold objectCharge
  by_cases h : Printable env (typeMember members)
  · rw [isImagePart_dict_eq env h, if_pos h]
    cases isImageObject env members with
    | true => rfl
    | false =>
        rw [if_neg Bool.false_ne_true]
        split <;> rfl
  · rw [if_neg h, searchCharges, isImagePart, partType, strOf_of_deep env h]
    rfl

theorem isImagePart_eq (part : PyValue F) :
    isImagePart env part = searchCharges env [partCharge env part] := by
  cases part with
  | dict members => exact isImagePart_dict env members
  | _ => rfl

theorem anyImagePart_charges (parts : List (PyValue F)) :
    anyImagePart env parts = searchCharges env (parts.map (partCharge env)) := by
  induction parts with
  | nil => rfl
  | cons part rest ih =>
      rw [anyImagePart, isImagePart_eq, ih]
      exact (searchCharges_append env [_] _).symm

/-- The search of a content is the search of its charges. -/
theorem contentHasImage_charges (content : PyValue F) :
    contentHasImage env content = searchCharges env (contentCharges env content) := by
  cases content with
  | dict members => exact isImagePart_dict env members
  | list parts => exact anyImagePart_charges env parts
  | _ => rfl

/-- The fields of a message are not searched. -/
theorem searchCharges_fields (members : Message F) (m : List (Charge F)) :
    searchCharges env (textMessageFields.flatMap (textFieldCharges members) ++
      jsonMessageFields.flatMap (jsonFieldCharges members) ++ m) = searchCharges env m := by
  apply searchCharges_of_forall
  intro charge hcharge
  rw [List.mem_append, List.mem_flatMap, List.mem_flatMap] at hcharge
  rcases hcharge with ⟨field, -, hfield⟩ | ⟨field, -, hfield⟩
  · unfold textFieldCharges at hfield
    dsimp only at hfield
    split at hfield
    · simp only [List.mem_cons, List.not_mem_nil, or_false] at hfield
      rcases hfield with rfl | rfl <;> exact ⟨rfl, by simp⟩
    · cases hfield
  · unfold jsonFieldCharges at hfield
    dsimp only at hfield
    split at hfield
    · cases hfield
    · simp only [List.mem_cons, List.not_mem_nil, or_false] at hfield
      rcases hfield with rfl | rfl <;> exact ⟨rfl, by simp⟩

/-- The tools and the response format are not searched. -/
theorem searchCharges_extra (overheadTokens : Nat) (value : PyValue F) :
    searchCharges env (extraCharges overheadTokens value) = .ok false := by
  unfold extraCharges
  split <;> rfl

theorem visionIn_charges (messages : List (Message F)) :
    visionIn env (messages.map .dict) =
      searchCharges env (messages.flatMap (messageCharges env)) := by
  induction messages with
  | nil => rfl
  | cons members rest ih =>
      rw [List.map_cons, visionIn, get_dict, ok_bind, List.flatMap_cons, messageCharges,
        List.cons_append, List.cons_append, List.cons_append, searchCharges_overhead,
        List.append_assoc, List.append_assoc, searchCharges_append, ← List.append_assoc,
        searchCharges_fields, contentHasImage_charges, ih]

/-- The search of a request is the search of its charges. -/
theorem requestContainsVision_eq (messages : List (Message F)) (tools responseFormat : PyValue F) :
    requestContainsVision env (.list (messages.map .dict)) =
      searchCharges env (requestCharges env messages tools responseFormat) := by
  have hextra : searchCharges env (extraCharges toolsOverheadTokens tools ++
      extraCharges structuredOutputOverheadTokens responseFormat) = .ok false := by
    rw [searchCharges_append, searchCharges_extra, searchCharges_extra]
    rfl
  have hsearch : searchCharges env (requestCharges env messages tools responseFormat) =
      visionIn env (messages.map .dict) := by
    unfold requestCharges
    rw [List.cons_append, List.cons_append, searchCharges_overhead, List.append_assoc,
      searchCharges_append, hextra, visionIn_charges]
    cases searchCharges env (messages.flatMap (messageCharges env)) with
    | error exc => rfl
    | ok image => cases image <;> rfl
  rw [hsearch]
  unfold requestContainsVision
  cases messages <;> rfl

/-! ## Reaching the image -/

/-- The charges of the messages ahead of the first image. -/
def chargesAhead (messages : List (Message F)) : List (Charge F) :=
  (messages.flatMap (messageCharges env)).takeWhile fun charge => !charge.isImage

/-- A charge that can be counted. -/
def Charge.Counts (charge : Charge F) : Prop :=
  match charge with
  | .overhead _ | .image => True
  | .kind type => Printable env type
  | .text value => CountableValue env family value
  | .json value => Serialisable env value

/-- If there is an image, and every type ahead of the first one can be written, then everything
ahead of it can be counted. -/
def ImagesReached (messages : List (Message F)) : Prop :=
  (messages.flatMap (messageCharges env)).any Charge.isImage = true →
    (∀ type, .kind type ∈ chargesAhead env messages → Printable env type) →
      ∀ charge ∈ chargesAhead env messages, charge.Counts env family

theorem exists_tokens_iff (charge : Charge F) :
    (∃ tokens, charge.tokens env family = .ok tokens) ↔ charge.Counts env family := by
  cases charge with
  | kind type =>
      rw [Charge.tokens, exists_map_ok_iff]
      exact strOf_ok_iff env type
  | text value => exact valueTokens_ok_iff env family value
  | json value => exact jsonTokenEstimate_ok_iff env family value
  | _ => exact iff_of_true ⟨_, rfl⟩ trivial

/-- The search ends at an image when every type ahead of the first one can be written. -/
theorem searchCharges_eq_true_iff (l : List (Charge F)) :
    searchCharges env l = .ok true ↔
      l.any Charge.isImage = true ∧
        ∀ type, .kind type ∈ l.takeWhile (fun charge => !charge.isImage) → Printable env type := by
  induction l with
  | nil => simp [searchCharges]
  | cons charge rest ih =>
      cases charge with
      | image => simp [searchCharges, Charge.isImage]
      | kind type =>
          rw [searchCharges, bind_ok_iff, List.any_cons, List.takeWhile_cons_of_pos rfl]
          simp only [Charge.isImage, Bool.false_or, List.mem_cons, Charge.kind.injEq]
          constructor
          · rintro ⟨text, htext, hrest⟩
            obtain ⟨himage, hall⟩ := ih.mp hrest
            refine ⟨himage, ?_⟩
            rintro other (rfl | hother)
            · exact (strOf_ok_iff env _).mp ⟨text, htext⟩
            · exact hall other hother
          · rintro ⟨himage, hall⟩
            exact ⟨_, strOf_eq env (hall type (.inl rfl)),
              ih.mpr ⟨himage, fun other hother => hall other (.inr hother)⟩⟩
      | _ =>
          rw [List.takeWhile_cons_of_pos rfl]
          simp only [List.any_cons, Charge.isImage, Bool.false_or, List.mem_cons, reduceCtorEq,
            false_or]
          exact ih

/-- The first image stands in the messages, ahead of the tools and the response format. -/
theorem takeWhile_requestCharges {messages : List (Message F)}
    (h : (messages.flatMap (messageCharges env)).any Charge.isImage = true)
    (tools responseFormat : PyValue F) :
    (requestCharges env messages tools responseFormat).takeWhile
      (fun charge => !charge.isImage) =
        .overhead requestOverheadTokens :: chargesAhead env messages := by
  unfold requestCharges chargesAhead
  rw [List.cons_append, List.cons_append, List.takeWhile_cons_of_pos rfl, List.append_assoc,
    List.takeWhile_append, if_neg]
  intro hlength
  have hall := (List.takeWhile_prefix _).eq_of_length hlength
  obtain ⟨charge, hcharge, hisImage⟩ := List.any_eq_true.mp h
  rw [← hall] at hcharge
  have hnot := List.all_eq_true.mp List.all_takeWhile charge hcharge
  simp [hisImage] at hnot

theorem any_requestCharges (messages : List (Message F)) (tools responseFormat : PyValue F) :
    (requestCharges env messages tools responseFormat).any Charge.isImage =
      (messages.flatMap (messageCharges env)).any Charge.isImage := by
  have hextra : ∀ (overheadTokens : Nat) (value : PyValue F),
      (extraCharges overheadTokens value).any Charge.isImage = false := by
    intro overheadTokens value
    unfold extraCharges
    split <;> rfl
  unfold requestCharges
  rw [List.any_append, List.any_append, hextra, hextra, List.any_cons]
  simp [Charge.isImage]

end Charges

/-! ## Samples -/

/-- A tokenizer that counts nothing exactly; the replacement character stands for a lone
surrogate. -/
def surrogateTokenizer : Tokenizer where
  lower := fun text => String.ofList (lowerAscii text.toList)
  encodable := fun text => !text.toList.contains '\ufffd'
  exactTextTokenCount := fun _ _ _ => none
  heuristicTextTokenCount := fun text _ => text.length
  withSafetyBuffer := fun total => total
  room := ⟨1000, 1000⟩

/-- A lone surrogate and an image. -/
def surrogateMessage : Message Exact :=
  [("content", .list [.str "\ufffd", .dict [("type", .str "image_url")]])]

end Tokens
end FreeLunch
