import DeclaredScreens.Proofs.WrittenSchemas

/-! What passes between a screen, its server and its user survives its written form, but for null.
A body or data field that holds null is read as one that holds nothing, whether it is written as
null or left out when absent; nothing else is lost. So what has been read once is written and read
without any change from then on. -/

namespace DeclaredScreens

namespace Json

/-- What is read of an optional value: null is nothing. -/
def orNothing : Option Json → Option Json
  | some .null => none
  | value => value

theorem orNothing_of_ne {value : Option Json} (present : value ≠ some .null) :
    orNothing value = value := by
  unfold orNothing
  split
  · exact absurd rfl present
  · rfl

theorem orNothing_eq_self_iff {value : Option Json} :
    orNothing value = value ↔ value ≠ some .null := by
  refine ⟨?_, orNothing_of_ne⟩
  rintro same rfl
  cases same

/-- What is made of a value keeps it, but for null. -/
theorem make_orNothing_eq_iff {α : Type} (make : Option Json → α)
    (injective : Function.Injective make) {value : Option Json} :
    make (orNothing value) = make value ↔ value ≠ some .null :=
  injective.eq_iff.trans orNothing_eq_self_iff

theorem orNothing_ne_null (value : Option Json) : orNothing value ≠ some .null := by
  by_cases null : value = some .null
  · rw [null]; nofun
  · rwa [orNothing_of_ne null]

theorem orNull_orNothing (value : Option Json) : orNull (orNothing value) = orNull value := by
  by_cases null : value = some .null
  · rw [null]; rfl
  · rw [orNothing_of_ne null]

theorem memberIf_orNothing_subset (name : String) (value : Option Json) :
    memberIf name (orNothing value) ⊆ memberIf name value := by
  by_cases null : value = some .null
  · rw [null]; exact List.nil_subset _
  · rw [orNothing_of_ne null]; exact List.Subset.refl _

theorem memberNesting_le_iff {ms : List (String × Json)} {n : Nat} :
    memberNesting ms ≤ n ↔ ∀ m ∈ ms, m.2.nesting ≤ n := by
  induction ms with
  | nil => simp [memberNesting]
  | cons m rest ih => rw [memberNesting, Nat.max_le, ih, List.forall_mem_cons]

theorem mem_memberFloats {ms : List (String × Json)} {f : Binary64} :
    f ∈ memberFloats ms ↔ ∃ m ∈ ms, f ∈ m.2.floats := by
  induction ms with
  | nil => simp [memberFloats]
  | cons m rest ih => simp [memberFloats, ih]

theorem Readable.subset {ms others : List (String × Json)} (readable : (object ms).Readable)
    (fewer : others ⊆ ms) : (object others).Readable := by
  obtain ⟨deep, floats⟩ := readable
  refine ⟨?_, fun f mem => ?_⟩
  · have each := memberNesting_le_iff.mp (Nat.le_refl (memberNesting ms))
    have inside : memberNesting others ≤ memberNesting ms :=
      memberNesting_le_iff.mpr fun m mem => each m (fewer mem)
    exact Nat.le_trans (Nat.succ_le_succ inside) deep
  · obtain ⟨m, here, held⟩ := mem_memberFloats.mp mem
    exact floats f (mem_memberFloats.mpr ⟨m, fewer here, held⟩)

end Json

namespace Decoder

variable {α : Type} {decoder : Decoder α} {write : α → Json} {a b : α}

/-- The texts of a value that is written, read and written again, as often as the number tells. -/
def rewritten (decoder : Decoder α) (write : α → Json) (a : α) : Nat → Decoded String
  | 0 => .ok (write a).text
  | n + 1 => do
      let text ← rewritten decoder write a n
      let b ← decoder.ofText text
      return (write b).text

/-- The value is read back as `b`, whose text is the text of all later writings. -/
structure Settles (decoder : Decoder α) (write : α → Json) (a b : α) : Prop where
  reads : decoder.ofText (write a).text = .ok b
  stable : ∀ n, rewritten decoder write a (n + 1) = .ok (write b).text

theorem settles (first : decoder.Reads (write a) b) (readable : (write a).Readable)
    (second : decoder.Reads (write b) b) (readable' : (write b).Readable) :
    Settles decoder write a b := by
  have once := first.ofText readable
  have again := second.ofText readable'
  refine ⟨once, fun n => ?_⟩
  induction n with
  | zero => simp [rewritten, once, bind, Except.bind, pure, Except.pure]
  | succ n ih =>
      rw [rewritten, ih]
      simp [again, bind, Except.bind, pure, Except.pure]

theorem settles_self (reads : decoder.Reads (write a) a) (readable : (write a).Readable) :
    Settles decoder write a a :=
  settles reads readable reads readable

theorem settles_of_idempotent {settle : α → α} {proper : α → Prop}
    (reads : ∀ a, proper a → decoder.Reads (write a) (settle a))
    (once : settle (settle a) = settle a) (first : proper a) (readable : (write a).Readable)
    (second : proper (settle a)) (readable' : (write (settle a)).Readable) :
    Settles decoder write a (settle a) := by
  have again := reads (settle a) second
  rw [once] at again
  exact settles (reads a first) readable again readable'

theorem reads_orNull {value : Option Json} (distinct : ∀ j ∈ value, j.isDistinct = true) :
    (optional Decoder.value).Reads (Json.orNull value) (Json.orNothing value) := by
  cases value with
  | none => exact fun _ _ => rfl
  | some j =>
      by_cases null : j = .null
      · rw [null]; exact fun _ _ => rfl
      · rw [Json.orNothing_of_ne (by simpa using null)]
        exact reads_some null (reads_value (distinct j rfl))

end Decoder

/-- What is made of one optional value, written as null when absent. -/
theorem Decoder.settles_dataField {α : Type} (make : Option Json → α) {write : α → Json}
    (written : ∀ data, write (make data) = .object [("data", Json.orNull data)])
    {data : Option Json} (distinct : ∀ j ∈ data, j.isDistinct = true)
    (readable : (write (make data)).Readable) :
    Settles (fields ["data"] fun scope m =>
        make <$> m.field scope "data" (.optional .value) (some none))
      write (make data) (make (Json.orNothing data)) := by
  have same : write (make (Json.orNothing data)) = write (make data) := by
    rw [written, written, Json.orNull_orNothing]
  have reads : (fields ["data"] fun scope m =>
      make <$> m.field scope "data" (.optional .value) (some none)).Reads
        (write (make data)) (make (Json.orNothing data)) := by
    rw [written]
    refine Decoder.reads_fields (by simp) (by simp) fun scope w => ?_
    rw [w.field "data" rfl (Decoder.reads_orNull distinct)]
    rfl
  exact settles reads readable (same ▸ reads) (same ▸ readable)

theorem Members.Written.field_value {ms : List (String × Json)} {scope : Scope}
    (w : Members.Written ms scope) (name : String) {value : Option Json}
    (found : ms.lookup name = value) (distinct : ∀ j ∈ value, j.isDistinct = true) :
    (ofJson ms).field scope name (.optional .value) (some none) = .ok (Json.orNothing value) := by
  cases value with
  | none => exact field_absent found none _ scope
  | some j => exact w.field name found (Decoder.reads_orNull distinct)

theorem FailureCode.reads (c : FailureCode) : FailureCode.decode.Reads c.toJson c :=
  Decoder.reads_enumeration (by cases c <;> rfl)

theorem Failure.reads (f : Failure) : Failure.decode.Reads f.toJson f := by
  refine Decoder.reads_fields (by simp) (by simp) fun scope w => ?_
  rw [w.field "code" rfl f.code.reads, w.field "message" rfl (Decoder.reads_string f.message)]
  rfl

theorem ToastKind.reads (k : ToastKind) : ToastKind.decode.Reads k.toJson k :=
  Decoder.reads_enumeration (by cases k <;> rfl)

theorem Toast.reads (t : Toast) : Toast.decode.Reads t.toJson t := by
  refine Decoder.reads_fields (by simp) (by simp) fun scope w => ?_
  rw [w.field "type" rfl t.kind.reads, w.field "message" rfl (Decoder.reads_string t.message)]
  rfl

def Json.distinctIn (value : Option Json) : Bool := value.all Json.isDistinct

theorem Json.isDistinct_of_mem {value : Option Json} (distinct : distinctIn value = true) :
    ∀ j ∈ value, j.isDistinct = true := by
  rintro j rfl
  exact distinct

theorem Json.distinctIn_orNothing {value : Option Json} (distinct : distinctIn value = true) :
    distinctIn (orNothing value) = true := by
  unfold orNothing
  split
  · rfl
  · exact distinct

namespace Request

variable {r : Request}

def settled (r : Request) : Request := { r with body := Json.orNothing r.body }

theorem reads (distinct : Json.distinctIn r.body = true) :
    Request.decode.Reads r.toJson r.settled := by
  have names := (List.Sublist.refl ["method"]).append (Json.names_memberIf "body" r.body)
  have body : (("method", Json.string r.method) :: Json.memberIf "body" r.body).lookup "body" =
      r.body := by
    simp [Entries.lookup_cons_if, Json.lookup_memberIf]
  refine Decoder.reads_fields (names.nodup (by decide)) (fun m mem => ?_) fun scope w => ?_
  · simpa using names.subset (List.mem_map_of_mem mem)
  rw [w.field "method" rfl (Decoder.reads_string r.method),
    w.field_value "body" body (Json.isDistinct_of_mem distinct)]
  rfl

theorem settles (distinct : Json.distinctIn r.body = true) (readable : r.toJson.Readable) :
    Request.decode.Settles Request.toJson r r.settled := by
  refine Decoder.settles_of_idempotent (fun _ => reads) ?_ distinct readable
    (Json.distinctIn_orNothing distinct) (readable.subset ?_)
  · simp only [settled, Json.orNothing_of_ne (Json.orNothing_ne_null r.body)]
  · exact List.cons_subset_cons _ (Json.memberIf_orNothing_subset "body" r.body)

end Request

def Response.settled (r : Response) : Response := ⟨Json.orNothing r.data⟩

def Payload.settled (p : Payload) : Payload := ⟨Json.orNothing p.data⟩

namespace Outcome

variable {o : Outcome}

def settled (o : Outcome) : Outcome := { o with data := Json.orNothing o.data }

theorem lookup_members (o : Outcome) :
    let ms := ("success", Json.bool o.success) ::
      (Json.memberIf "data" o.data ++ Json.memberIf "error" (o.error.map (·.toJson)))
    ms.lookup "data" = o.data ∧ ms.lookup "error" = o.error.map (·.toJson) := by
  simp [Entries.lookup_cons_if, List.lookup_append, Json.lookup_memberIf]

theorem reads (distinct : Json.distinctIn o.data = true) :
    Outcome.decode.Reads o.toJson o.settled := by
  have names := (List.Sublist.refl ["success"]).append ((Json.names_memberIf "data" o.data).append
    (Json.names_memberIf "error" (o.error.map (·.toJson))))
  rw [← List.map_append] at names
  obtain ⟨data, error⟩ := o.lookup_members
  refine Decoder.reads_fields (names.nodup (by decide)) (fun m mem => ?_) fun scope w => ?_
  · simpa using names.subset (List.mem_map_of_mem mem)
  rw [w.field "success" rfl (Decoder.reads_bool o.success),
    w.field_value "data" data (Json.isDistinct_of_mem distinct),
    w.field_if "error" error (fun _ _ => nofun) fun f _ => f.reads]
  rfl

theorem settles (distinct : Json.distinctIn o.data = true) (readable : o.toJson.Readable) :
    Outcome.decode.Settles Outcome.toJson o o.settled := by
  refine Decoder.settles_of_idempotent (fun _ => reads) ?_ distinct readable
    (Json.distinctIn_orNothing distinct) (readable.subset ?_)
  · simp only [settled, Json.orNothing_of_ne (Json.orNothing_ne_null o.data)]
  · have fewer := Json.memberIf_orNothing_subset "data" o.data
    exact List.cons_subset_cons _ (List.append_subset.mpr
      ⟨List.Subset.trans fewer (List.subset_append_left ..), List.subset_append_right ..⟩)

end Outcome

namespace Json

structure IsFlat (j : Json) : Prop where
  nesting_eq : j.nesting = 0
  floats_eq : j.floats = []

theorem flat_string (text : String) : (string text).IsFlat := ⟨rfl, rfl⟩

theorem flat_textOrNull (text : Option String) : (textOrNull text).IsFlat := by
  cases text <;> exact ⟨rfl, rfl⟩

theorem readable_pair {first second : String} {a b : Json} (flat : a.IsFlat) (flat' : b.IsFlat) :
    (object [(first, a), (second, b)]).Readable := by
  refine ⟨?_, fun f mem => ?_⟩
  · simp [nesting, memberNesting, flat.nesting_eq, flat'.nesting_eq, nestingLimit]
  · simp [floats, memberFloats, flat.floats_eq, flat'.floats_eq] at mem

end Json

/-- Every value that is exchanged is read back from its text as it was, but for a body or data field
that held null and now holds nothing, and from the second text on all texts are the same. Objects
that are held as values name each member once, as they do in a document that has been read. -/
theorem exchanges_survive_up_to_null :
    (∀ r : Request, Json.distinctIn r.body = true → r.toJson.Readable →
      Request.decode.Settles Request.toJson r r.settled ∧ (r.settled = r ↔ r.body ≠ some .null)) ∧
    (∀ r : Response, Json.distinctIn r.data = true → r.toJson.Readable →
      Response.decode.Settles Response.toJson r r.settled ∧
        (r.settled = r ↔ r.data ≠ some .null)) ∧
    (∀ p : Payload, Json.distinctIn p.data = true → p.toJson.Readable →
      Payload.decode.Settles Payload.toJson p p.settled ∧ (p.settled = p ↔ p.data ≠ some .null)) ∧
    (∀ n : Notification, Notification.decode.Settles Notification.toJson n n) ∧
    (∀ t : Toast, Toast.decode.Settles Toast.toJson t t) ∧
    (∀ f : Failure, Failure.decode.Settles Failure.toJson f f) ∧
    ∀ o : Outcome, Json.distinctIn o.data = true → o.toJson.Readable →
      Outcome.decode.Settles Outcome.toJson o o.settled ∧
        (o.settled = o ↔ o.data ≠ some .null) := by
  refine ⟨fun r distinct readable => ?_, fun r distinct readable => ?_,
    fun p distinct readable => ?_, fun n => ?_, fun t => ?_, fun f => ?_,
    fun o distinct readable => ?_⟩
  · exact ⟨Request.settles distinct readable,
      Json.make_orNothing_eq_iff (Request.mk r.method) fun _ _ same => (Request.mk.inj same).2⟩
  · exact ⟨Decoder.settles_dataField Response.mk (fun _ => rfl) (Json.isDistinct_of_mem distinct)
      readable, Json.make_orNothing_eq_iff Response.mk fun _ _ => Response.mk.inj⟩
  · exact ⟨Decoder.settles_dataField Payload.mk (fun _ => rfl) (Json.isDistinct_of_mem distinct)
      readable, Json.make_orNothing_eq_iff Payload.mk fun _ _ => Payload.mk.inj⟩
  · exact Decoder.settles_self n.reads
      (Json.readable_pair (Json.flat_textOrNull _) (Json.flat_textOrNull _))
  · exact Decoder.settles_self t.reads
      (Json.readable_pair (Json.flat_string _) (Json.flat_string _))
  · exact Decoder.settles_self f.reads
      (Json.readable_pair (Json.flat_string _) (Json.flat_string _))
  · exact ⟨Outcome.settles distinct readable,
      Json.make_orNothing_eq_iff (Outcome.mk o.success · o.error)
        fun _ _ same => (Outcome.mk.inj same).2.1⟩

theorem null_body_is_dropped_and_half_kept :
    (Request.decode.Settles Request.toJson ⟨"PUT", some .null⟩ ⟨"PUT", none⟩ ∧
      Request.settled ⟨"PUT", some .null⟩ ≠ ⟨"PUT", some .null⟩) ∧
    Response.decode.Settles Response.toJson ⟨some (.number (.float .half))⟩
      ⟨some (.number (.float .half))⟩ ∧
    Payload.decode.Settles Payload.toJson ⟨some .null⟩ ⟨none⟩ ∧
    Outcome.decode.Settles Outcome.toJson
      ⟨true, some (.array [.number (.float .half), .null]), none⟩
      ⟨true, some (.array [.number (.float .half), .null]), none⟩ := by
  have halves {j : Json} (deep : j.nesting ≤ Json.nestingLimit)
      (floats : j.floats.all (· = .half) = true) : j.Readable := ⟨deep, Json.halves_readBack floats⟩
  obtain ⟨requests, responses, payloads, -, -, -, outcomes⟩ := exchanges_survive_up_to_null
  obtain ⟨request, kept⟩ := requests ⟨"PUT", some .null⟩ rfl (halves (by decide) rfl)
  exact ⟨⟨request, fun same => kept.mp same rfl⟩, (responses _ rfl (halves (by decide) rfl)).1,
    (payloads ⟨some .null⟩ rfl (halves (by decide) rfl)).1,
    (outcomes _ rfl (halves (by decide) rfl)).1⟩

end DeclaredScreens
