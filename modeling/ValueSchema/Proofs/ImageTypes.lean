import ValueSchema.Proofs.ArrivedEntries
import ValueSchema.Proofs.ByteOrder
import ValueSchema.Proofs.Refinements

/-! # Image types

The types that an image may have are a set: those that are given and those that are always
allowed. Neither the order nor the repetition of those given can be told from what is refused,
nor from what is said about it.
-/

namespace ValueSchema

namespace Constraint

/-! ## The types allowed -/

theorem mem_imageTypes_iff {extra : List String} {type : String} :
    type ∈ imageTypes extra ↔ type ∈ extra ∨ type ∈ defaultImageTypes := by
  rw [imageTypes, Entries.mem_names_iff, Entries.find?_ofListAscending,
    Entries.find?_reverse_ne_none_iff, Entries.names, List.map_map]
  simp

theorem imageTypes_ascending (extra : List String) :
    (imageTypes extra).Pairwise fun type other => utf8Bytes type < utf8Bytes other :=
  (Entries.ascending_ofListAscending _).imp utf8Bytes_lt_of_lt

theorem imageTypes_congr {extra others : List String}
    (same : ∀ type, type ∈ extra ↔ type ∈ others) : imageTypes extra = imageTypes others := by
  have sameAllowed : ∀ type, type ∈ imageTypes extra ↔ type ∈ imageTypes others := by
    intro type
    rw [mem_imageTypes_iff, mem_imageTypes_iff, same]
  exact (Entries.ascending_ofListAscending _).names_eq (Entries.ascending_ofListAscending _)
    sameAllowed

/-! ## What passes -/

theorem image_holds_iff {extra : List String} {upload : File} :
    (image extra).Holds upload ↔ upload.mime ∈ extra ∨ upload.mime ∈ defaultImageTypes := by
  rw [image, holds_ofPredicate_iff, decide_eq_true_iff, mem_imageTypes_iff]

/-- What is said of a type that is none of those listed. -/
def imageRefusal (listed : List String) (mime : String) : String :=
  "\"" ++ mime ++ "\" is not an allowed image type, expected one of \x7b" ++
    ", ".intercalate listed ++ "\x7d"

theorem image_check_eq_error {extra : List String} {upload : File}
    (refused : ¬(image extra).Holds upload) :
    (image extra).check upload =
      .error (.violation "image" (imageRefusal (imageTypes extra) upload.mime)) := by
  rw [image_holds_iff, ← mem_imageTypes_iff] at refused
  simp only [image, ofPredicate, decide_eq_true_iff]
  rw [if_neg refused]
  rfl

theorem image_congr {extra others : List String}
    (same : ∀ type, type ∈ extra ↔ type ∈ others) : image extra = image others := by
  simp only [image, imageTypes_congr same]

/-! ## Chains of lists -/

/-- A chain of lists puts one constraint for each of them behind those that are there. -/
theorem exists_imageChain (constraints : List (Constraint File)) (extras : List (List String)) :
    ∃ refined, (Schema.file constraints).refineAll?
        (extras.map fun extra => .file (.image extra)) = some refined ∧
      ∀ upload, refined.accepts (.file upload) = true ↔
        (Schema.file constraints).accepts (.file upload) = true ∧
          ∀ extra ∈ extras, (image extra).Holds upload := by
  have one (present : List (Constraint File)) (extra : List String) :
      (Schema.file present).refine? (.file (.image extra)) =
        some (.file (present ++ [image extra])) := rfl
  refine ⟨_, Schema.refineAll?_map one constraints extras, ?_⟩
  intro upload
  simp only [Schema.accepts_iff_conforms, Schema.conforms_file_iff, List.forall_mem_append,
    List.forall_mem_flatMap, List.forall_mem_singleton]

/-! ## Sets of types -/

/-- An image is allowed exactly if its type is one of those given or of those always allowed. Who
is refused is shown these types and no others, strictly ascending by their bytes, so lists with
the same types make the same constraint. A chain of lists allows what all of them allow. -/
theorem image_types_are_sets :
    (∀ (extra : List String) (upload : File),
      (image extra).Holds upload ↔ upload.mime ∈ extra ∨ upload.mime ∈ defaultImageTypes) ∧
    (∀ extra : List String, ∃ listed : List String,
      (listed.Pairwise fun type other => utf8Bytes type < utf8Bytes other) ∧
      (∀ type, type ∈ listed ↔ type ∈ extra ∨ type ∈ defaultImageTypes) ∧
      ∀ upload, ¬(image extra).Holds upload →
        (image extra).check upload =
          .error (.violation "image" (imageRefusal listed upload.mime))) ∧
    (∀ extra others : List String, (∀ type, type ∈ extra ↔ type ∈ others) →
      image extra = image others) ∧
    ∀ (constraints : List (Constraint File)) (extras : List (List String)),
      ∃ refined, (Schema.file constraints).refineAll?
          (extras.map fun extra => .file (.image extra)) = some refined ∧
        ∀ upload, refined.accepts (.file upload) = true ↔
          (Schema.file constraints).accepts (.file upload) = true ∧
            ∀ extra ∈ extras, upload.mime ∈ extra ∨ upload.mime ∈ defaultImageTypes := by
  refine ⟨fun extra upload => image_holds_iff, fun extra => ?_,
    fun extra others same => image_congr same, fun constraints extras => ?_⟩
  · exact ⟨imageTypes extra, imageTypes_ascending extra, fun type => mem_imageTypes_iff,
      fun upload refused => image_check_eq_error refused⟩
  · rcases exists_imageChain constraints extras with ⟨refined, refinedAll, accepted⟩
    simp only [image_holds_iff] at accepted
    exact ⟨refined, refinedAll, accepted⟩

private def shuffledTypes : List String := ["image/png", "image/x", "image/heic", "image/x"]

private def plainTypes : List String := ["image/heic", "image/x", "image/png"]

private def paper : File := ⟨none, "application/pdf", 1⟩

/-- The order of the types and their repetition are lost, and nothing is listed twice. -/
theorem shuffled_types_listed_once :
    (∀ type, type ∈ shuffledTypes ↔ type ∈ plainTypes) ∧
    image shuffledTypes = image plainTypes ∧ ¬(image shuffledTypes).Holds paper ∧
    (∃ listed : List String,
      (listed.Pairwise fun type other => utf8Bytes type < utf8Bytes other) ∧
      (image shuffledTypes).check paper =
        .error (.violation "image" (imageRefusal listed "application/pdf"))) ∧
    (image shuffledTypes).check paper = .error (.violation "image"
      ("\"application/pdf\" is not an allowed image type, expected one of \x7bimage/avif, " ++
        "image/bmp, image/gif, image/heic, image/jpeg, image/jpg, image/png, image/svg+xml, " ++
        "image/webp, image/x\x7d")) := by
  rcases image_types_are_sets with ⟨allowed, listing, sameTypes, _⟩
  have same : ∀ type, type ∈ shuffledTypes ↔ type ∈ plainTypes := by
    intro type
    simp only [shuffledTypes, plainTypes, List.mem_cons, List.not_mem_nil, or_false]
    grind
  have refused : ¬(image shuffledTypes).Holds paper := by
    rw [allowed]
    decide
  have types : imageTypes shuffledTypes = ["image/avif", "image/bmp", "image/gif", "image/heic",
      "image/jpeg", "image/jpg", "image/png", "image/svg+xml", "image/webp", "image/x"] := by
    decide
  rcases listing shuffledTypes with ⟨listed, ascending, _, shown⟩
  refine ⟨same, sameTypes _ _ same, refused, ⟨listed, ascending, shown paper refused⟩, ?_⟩
  rw [image_check_eq_error refused, types]
  rfl

end Constraint

end ValueSchema
