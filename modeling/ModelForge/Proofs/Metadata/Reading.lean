import ModelForge.Proofs.Metadata.Fields
import ModelForge.Proofs.Metadata.Format
import ModelForge.Proofs.Text.Utf8Strict

/-! # Reading follows the format

Each step of the reader takes exactly the octets that the format gives a value, and what it refuses
either ends too early or is refused whatever is put behind it (`ModelForge.Metadata.Reads`). Such
steps are put together by `ModelForge.Metadata.Reads.bind`, so a file is read if and only if it is
what the format describes, and no file is the beginning of another one
(`ModelForge.Metadata.ReadsFile`).
-/

namespace ModelForge

namespace Metadata

variable {α β : Type} {x : Extent} {bs input rest : Octets} {f : Failure} {table : StringPools}

/-! ## Steps of reading -/

/-- A failure that says that a file ends too early, perhaps where the tag of a value should be. -/
inductive EndsEarly (file : String) : Failure → Prop
  | field (offset : Nat) (cause : Option Failure) :
      EndsEarly file (.format (.truncated file offset) cause)
  | tag {f : Failure} (early : EndsEarly file f) : EndsEarly file (.format .badTag (some f))

/-- A failure about the content of a file: a fault of its format, or a broken id or text in it. -/
inductive IsBroken : Failure → Prop
  | format (fault : FormatFault) (cause : Option Failure) : IsBroken (.format fault cause)
  | id (fault : IdFault) : IsBroken (.stringId fault)
  | text (fault : Utf8.Fault) : IsBroken (.undecodable fault)

/-- A file that ends early is broken. -/
theorem EndsEarly.isBroken {file : String} (early : EndsEarly file f) : IsBroken f := by
  cases early with
  | field offset cause => exact .format _ _
  | tag early => exact .format _ _

/-- What a step of reading takes and what it refuses. It takes the octets that the form gives a
value, whatever follows them. What it refuses ends too early, or nothing behind it can mend it. -/
structure Reads (step : Extent → Decode α) (form : α → Octets → Prop) : Prop where
  accepts : ∀ x input a rest, (step x).run input = .ok (a, rest) ↔
    ∃ front, input = front ++ rest ∧ form a front
  refuses : ∀ x input f, (step x).run input = .error f → EndsEarly x.file f ∨
    IsBroken f ∧ ∀ y : Extent, y.file = x.file → ∀ more, (step y).run (input ++ more) = .error f

/-- Reading stops at the first step that fails. -/
theorem run_bind_of_error {step : Decode α} (failed : step.run input = .error f)
    (next : α → Decode β) : (step >>= next).run input = .error f := by
  rw [StateT.run_bind, failed]
  rfl

/-- What is read may be described in another way. -/
theorem Reads.congr {step : Extent → Decode α} {form form' : α → Octets → Prop}
    (reads : Reads step form) (same : ∀ a bs, form a bs ↔ form' a bs) : Reads step form' := by
  have equal : form = form' := funext fun a => funext fun bs => propext (same a bs)
  rwa [← equal]

theorem reads_pure (a : α) : Reads (fun _ => pure a) fun b bs => b = a ∧ bs = [] := by
  refine ⟨fun x input b rest => ⟨fun done => ?_, ?_⟩, fun x input f failed => by cases failed⟩
  · cases done
    exact ⟨[], rfl, rfl, rfl⟩
  · rintro ⟨_, rfl, rfl, rfl⟩
    rfl

/-- A step that always fails reads nothing. -/
theorem reads_throw {fault : String → Failure} (broken : ∀ file, IsBroken (fault file)) :
    Reads (fun x => (throw (fault x.file) : Decode α)) fun _ _ => False := by
  refine ⟨fun x input a rest => ⟨fun done => ?_, ?_⟩, fun x input f failed => ?_⟩
  · cases done
  · rintro ⟨_, -, no⟩
    exact no.elim
  · cases failed
    refine Or.inr ⟨broken x.file, fun y same more => ?_⟩
    rw [same]
    rfl

/-- An id is looked up without reading on. -/
theorem reads_orUnknown (result : Except IdFault α) :
    Reads (fun _ => orUnknown result) fun a bs => result = .ok a ∧ bs = [] := by
  cases result with
  | ok a => exact (reads_pure a).congr fun b bs => by simp [eq_comm]
  | error fault => exact (reads_throw fun _ => .id fault).congr fun b bs => by simp

/-- Two steps one after the other take what the first one takes and behind it what the second one
takes. -/
theorem Reads.bind {first : Extent → Decode α} {next : Extent → α → Decode β}
    {form : α → Octets → Prop} {form' : α → β → Octets → Prop} (reads : Reads first form)
    (others : ∀ a bs, form a bs → Reads (fun x => next x a) (form' a)) :
    Reads (fun x => first x >>= next x) fun b bs =>
      ∃ a front back, bs = front ++ back ∧ form a front ∧ form' a b back := by
  constructor
  · intro x input b rest
    rw [StateT.run_bind, Result.bind_eq_ok]
    constructor
    · rintro ⟨⟨a, middle⟩, done, doneNext⟩
      obtain ⟨front, rfl, known⟩ := (reads.accepts x input a middle).mp done
      obtain ⟨back, rfl, knownNext⟩ := ((others a front known).accepts x middle b rest).mp doneNext
      exact ⟨front ++ back, by rw [List.append_assoc], a, front, back, rfl, known, knownNext⟩
    · rintro ⟨_, rfl, a, front, back, rfl, known, knownNext⟩
      rw [List.append_assoc]
      exact ⟨(a, back ++ rest), (reads.accepts x _ a _).mpr ⟨front, rfl, known⟩,
        ((others a front known).accepts x _ b rest).mpr ⟨back, rfl, knownNext⟩⟩
  · intro x input f failed
    rcases done : (first x).run input with e | ⟨a, middle⟩
    · rw [run_bind_of_error done] at failed
      cases failed
      refine (reads.refuses x input f done).imp_right fun ⟨broken, final⟩ => ⟨broken, ?_⟩
      exact fun y same more => run_bind_of_error (final y same more) _
    · rw [run_bind_of_ok done] at failed
      obtain ⟨front, rfl, known⟩ := (reads.accepts x input a middle).mp done
      refine ((others a front known).refuses x middle f failed).imp_right fun ⟨broken, final⟩ =>
        ⟨broken, ?_⟩
      intro y same more
      have again := (reads.accepts y (front ++ (middle ++ more)) a (middle ++ more)).mpr
        ⟨front, rfl, known⟩
      rw [List.append_assoc, run_bind_of_ok again]
      exact final y same more

/-- What was read may be changed. -/
theorem Reads.map {step : Extent → Decode α} {form : α → Octets → Prop} (reads : Reads step form)
    (g : α → β) :
    Reads (fun x => step x >>= fun a => pure (g a)) fun b bs => ∃ a, b = g a ∧ form a bs := by
  refine (reads.bind fun a _ _ => reads_pure (g a)).congr fun b bs => ?_
  constructor
  · rintro ⟨a, front, _, rfl, known, rfl, rfl⟩
    exact ⟨a, rfl, by rwa [List.append_nil]⟩
  · rintro ⟨a, rfl, known⟩
    exact ⟨a, bs, [], (List.append_nil bs).symm, known, rfl, rfl⟩

/-- A step that fails for want of octets takes any octets of the number it wants. -/
theorem reads_octets {step : Extent → Decode Octets} {n : Nat} (cause : Option Failure)
    (taken : ∀ x bs rest, bs.length = n → (step x).run (bs ++ rest) = .ok (bs, rest))
    (wanting : ∀ x input, input.length < n → (step x).run input =
      .error (truncated x input cause)) :
    Reads step fun bs front => front = bs ∧ bs.length = n := by
  have long : ∀ x input, n ≤ input.length →
      (step x).run input = .ok (input.take n, input.drop n) := by
    intro x input enough
    have run := taken x (input.take n) (input.drop n) (List.length_take_of_le enough)
    rwa [List.take_append_drop] at run
  constructor
  · intro x input bs rest
    constructor
    · intro done
      by_cases enough : n ≤ input.length
      · rw [long x input enough] at done
        cases done
        exact ⟨_, (List.take_append_drop n input).symm, rfl, List.length_take_of_le enough⟩
      · rw [wanting x input (by omega)] at done
        cases done
    · rintro ⟨_, rfl, rfl, length⟩
      exact taken x _ rest length
  · intro x input f failed
    by_cases enough : n ≤ input.length
    · rw [long x input enough] at failed
      cases failed
    · rw [wanting x input (by omega)] at failed
      cases failed
      exact Or.inl (.field _ cause)

/-- A number of octets is read as it stands. -/
theorem reads_take (n : Nat) :
    Reads (fun x => take x n) fun bs front => front = bs ∧ bs.length = n := by
  refine reads_octets none (fun x bs rest length => ?_) fun x input short => ?_
  · rw [← length]
    exact run_take x bs rest
  · unfold take
    rw [run_bind_of_ok (run_get input)]
    simp only [List.length_take, show min n input.length < n by omega, if_true]
    rfl

/-- A field of a given width is read as it stands. -/
theorem reads_field (width : Nat) :
    Reads (fun x => field x width) fun bs front => front = bs ∧ bs.length = width := by
  refine reads_octets (some .packing) (fun x bs rest length => ?_) fun x input short => ?_
  · rw [← length]
    exact run_field x bs rest
  · unfold field
    rw [run_bind_of_ok (run_get input)]
    simp only [List.length_take, show min width input.length < width by omega, if_true]
    rfl

/-- Numbers are read from as many octets as they are wide. -/
theorem reads_natural (width : Nat) : Reads (fun x => natural x width) (NaturalForm width) := by
  refine ((reads_field width).map BigEndian.value).congr fun n bs => ⟨?_, ?_⟩
  · rintro ⟨_, rfl, rfl, length⟩
    exact ⟨length, rfl⟩
  · rintro ⟨length, rfl⟩
    exact ⟨bs, rfl, rfl, length⟩

/-- Signed numbers are read from as many octets as they are wide. -/
theorem reads_integer (width : Nat) : Reads (fun x => integer x width) (IntegerForm width) := by
  refine ((reads_field width).map BigEndian.signedValue).congr fun i bs => ⟨?_, ?_⟩
  · rintro ⟨_, rfl, rfl, length⟩
    exact ⟨length, rfl⟩
  · rintro ⟨length, rfl⟩
    exact ⟨bs, rfl, rfl, length⟩

theorem itemsForm_cons {form : α → Octets → Prop} {a : α} {items : List α} :
    ItemsForm form (a :: items) bs ↔
      ∃ front back, bs = front ++ back ∧ form a front ∧ ItemsForm form items back := by
  constructor
  · rintro ⟨pieces, rfl, each⟩
    obtain ⟨piece, others, first, tail, rfl⟩ := List.forall₂_cons_left_iff.mp each
    exact ⟨piece, others.flatten, rfl, first, others, rfl, tail⟩
  · rintro ⟨front, _, rfl, first, others, rfl, tail⟩
    exact ⟨front :: others, rfl, .cons first tail⟩

/-- The number of rounds is given, and what each round takes is what its item takes. -/
theorem Reads.times {step : Extent → Decode α} {form : α → Octets → Prop}
    (reads : Reads step form) (n : Nat) :
    Reads (fun x => times (step x) n) fun items bs => items.length = n ∧
      ItemsForm form items bs := by
  induction n with
  | zero =>
    refine (reads_pure []).congr fun items bs => ⟨?_, ?_⟩
    · rintro ⟨rfl, rfl⟩
      exact ⟨rfl, [], rfl, .nil⟩
    · rintro ⟨none, pieces, rfl, each⟩
      cases List.length_eq_zero_iff.mp none
      cases each
      exact ⟨rfl, rfl⟩
  | succ n ih =>
    refine (reads.bind fun a _ _ => ih.map (a :: ·)).congr
      fun items bs => ⟨?_, ?_⟩
    · rintro ⟨a, front, back, rfl, first, others, rfl, length, tail⟩
      exact ⟨congrArg Nat.succ length, itemsForm_cons.mpr ⟨front, back, rfl, first, tail⟩⟩
    · rintro ⟨length, form⟩
      cases items with
      | nil => cases length
      | cons a others =>
        obtain ⟨front, back, rfl, first, tail⟩ := itemsForm_cons.mp form
        exact ⟨a, front, back, rfl, first, others, rfl, Nat.succ.inj length, tail⟩

/-- A list is read as its count and its items. -/
theorem Reads.list {step : Extent → Decode α} {form : α → Octets → Prop} (reads : Reads step form) :
    Reads (fun x => natural x 4 >>= fun n => Metadata.times (step x) n) (ListForm form) := by
  refine ((reads_natural 4).bind fun n _ _ => reads.times n).congr fun items bs => ?_
  constructor
  · rintro ⟨_, size, content, rfl, field, rfl, each⟩
    exact ⟨size, content, rfl, field, each⟩
  · rintro ⟨size, content, rfl, field, each⟩
    exact ⟨items.length, size, content, rfl, field, rfl, each⟩

/-! ## Parts of the files -/

/-- A condition is checked without reading on. -/
theorem reads_unless (refused : Prop) [Decidable refused] {fault : String → Failure}
    (broken : ∀ file, IsBroken (fault file)) :
    Reads (fun x => if refused then (throw (fault x.file) : Decode Unit) else pure ())
      fun _ bs => ¬ refused ∧ bs = [] := by
  by_cases is : refused
  · simp only [is, if_true]
    exact (reads_throw broken).congr fun _ bs => by simp
  · simp only [is, if_false]
    exact (reads_pure ()).congr fun _ bs => by simp

/-- A header step by step: the magic octets, the version, and what may be wrong with it. -/
theorem header_eq (x : Extent) (magic : Octets) : header x magic =
    take x magic.length >>= fun found =>
      (if found ≠ magic then (throw (.format (.badMagic x.file) none) : Decode Unit) else pure ())
        >>= fun _ => natural x 2 >>= fun current =>
          if current ≠ version then throw (.format (.unsupportedVersion x.file current) none)
          else pure () := by
  unfold header
  congr 1
  funext found
  by_cases same : found = magic
  · simp [same]
  · simp only [same, ne_eq, not_false_eq_true, if_true]

/-- What a header looks like. -/
theorem reads_header (magic : Octets) :
    Reads (fun x => header x magic) fun _ => HeaderForm magic := by
  simp only [header_eq]
  have right (found : Octets) := reads_unless (found ≠ magic) fun file =>
    IsBroken.format (.badMagic file) none
  have known (current : Nat) := reads_unless (current ≠ version) fun file =>
    IsBroken.format (.unsupportedVersion file current) none
  refine ((reads_take magic.length).bind fun found _ _ => (right found).bind fun _ _ _ =>
    (reads_natural 2).bind fun current _ _ => known current).congr fun _ bs => ⟨?_, ?_⟩
  · rintro ⟨_, _, _, rfl, ⟨rfl, -⟩, _, _, _, rfl, ⟨same, rfl⟩, current, field, _, rfl, form, known,
      rfl⟩
    rw [not_not.mp same, List.append_nil, List.nil_append]
    exact ⟨field, rfl, not_not.mp known ▸ form⟩
  · rintro ⟨field, rfl, form⟩
    exact ⟨magic, magic, field, rfl, ⟨rfl, rfl⟩, (), [], field, rfl, ⟨not_not.mpr rfl, rfl⟩,
      version, field, [], (List.append_nil field).symm, form, not_not.mpr rfl, rfl⟩

/-- Texts are read in their form. -/
theorem reads_text : Reads text TextForm := by
  refine ((reads_natural 4).bind fun n _ _ => (reads_take n).bind fun bs _ _ =>
    (?decoded : Reads _ fun s rest => bs = Utf8.encode s ∧ rest = [])).congr fun s bs => ⟨?_, ?_⟩
  case decoded =>
    simp only [← Utf8.decode_eq_ok]
    cases Utf8.decode bs with
    | ok s => exact (reads_pure s).congr fun b bs => by simp [eq_comm]
    | error fault => exact (reads_throw fun _ => .text fault).congr fun b bs => by simp
  · rintro ⟨n, size, _, rfl, field, bs, _, _, rfl, ⟨rfl, length⟩, rfl, rfl⟩
    rw [List.append_nil]
    exact ⟨size, rfl, by rwa [length]⟩
  · rintro ⟨size, rfl, field⟩
    exact ⟨_, size, _, rfl, field, _, _, [], (List.append_nil _).symm, ⟨rfl, rfl⟩, rfl, rfl⟩

theorem reads_pool : Reads pool (ListForm TextForm) := reads_text.list

private theorem found_eq_ok {found : Option String} {fault : IdFault} {text : String} :
    (match found with
      | some text => pure text
      | none => throw fault : Except IdFault String) = .ok text ↔ found = some text := by
  cases found with
  | none => exact ⟨(nomatch ·), (nomatch ·)⟩
  | some other => exact Except.ok.injEq other text ▸ Option.some_inj.symm

/-- Which ids stand for texts. -/
theorem string_eq_ok {i : Int} {text : String} :
    table.string i = .ok text ↔ ∃ k : Nat, i = k + 1 ∧ table.strings[k]? = some text := by
  unfold StringPools.string StringId.toGeneralIndex
  rw [Result.bind_eq_ok]
  constructor
  · rintro ⟨index, known, found⟩
    split at known
    · cases known
    · cases known
      exact ⟨(i - 1).toNat, by omega, found_eq_ok.mp found⟩
  · rintro ⟨k, rfl, found⟩
    refine ⟨k, ?_, found_eq_ok.mpr found⟩
    rw [if_neg (by omega)]
    exact congrArg Except.ok (by omega)

/-- Which ids stand for classifiers. -/
theorem classifier_eq_ok {i : Int} {text : String} :
    table.classifier i = .ok text ↔ ∃ k : Nat, i = -k - 1 ∧ table.classifiers[k]? = some text := by
  unfold StringPools.classifier StringId.toClassifierIndex
  rw [Result.bind_eq_ok]
  constructor
  · rintro ⟨index, known, found⟩
    split at known
    · cases known
    · cases known
      exact ⟨(-i - 1).toNat, by omega, found_eq_ok.mp found⟩
  · rintro ⟨k, rfl, found⟩
    refine ⟨k, ?_, found_eq_ok.mpr found⟩
    rw [if_neg (by omega)]
    exact congrArg Except.ok (by omega)

/-- An id of a text is four octets that stand for it. -/
theorem stringForm_iff {text : String} : StringForm table text bs ↔
    bs.length = 4 ∧ table.string (BigEndian.signedValue bs) = .ok text := by
  constructor
  · rintro ⟨k, ⟨length, value⟩, found⟩
    exact ⟨length, string_eq_ok.mpr ⟨k, value, found⟩⟩
  · rintro ⟨length, known⟩
    obtain ⟨k, value, found⟩ := string_eq_ok.mp known
    exact ⟨k, ⟨length, value⟩, found⟩

/-- An id of a classifier is four octets that stand for it. -/
theorem classifierForm_iff {text : String} : ClassifierForm table text bs ↔
    bs.length = 4 ∧ table.classifier (BigEndian.signedValue bs) = .ok text := by
  constructor
  · rintro ⟨k, ⟨length, value⟩, found⟩
    exact ⟨length, classifier_eq_ok.mpr ⟨k, value, found⟩⟩
  · rintro ⟨length, known⟩
    obtain ⟨k, value, found⟩ := classifier_eq_ok.mp known
    exact ⟨k, ⟨length, value⟩, found⟩

/-- A text is read through its id. -/
theorem reads_stringById (table : StringPools) :
    Reads (fun x => stringById x table) (StringForm table) := by
  refine ((reads_integer 4).bind fun i _ _ => reads_orUnknown (table.string i)).congr
    fun text bs => ?_
  rw [stringForm_iff]
  constructor
  · rintro ⟨_, field, _, rfl, ⟨length, rfl⟩, known, rfl⟩
    rw [List.append_nil]
    exact ⟨length, known⟩
  · rintro ⟨length, known⟩
    exact ⟨_, bs, [], (List.append_nil bs).symm, ⟨length, rfl⟩, known, rfl⟩

/-- A tag step by step. -/
theorem run_tag (x : Extent) (input : Octets) : (tag x).run input =
    match (natural x 1).run input with
    | .error f => .error (.format .badTag (some f))
    | .ok (t, rest) => if 1 ≤ t ∧ t ≤ 4 then .ok (t, rest)
      else .error (.format .badTag (some (.notMember (toString t) "ValueTag"))) := by
  unfold tag
  rw [run_bind_of_ok (run_get input)]
  rcases (natural x 1).run input with f | ⟨t, rest⟩
  · rfl
  · dsimp only
    by_cases known : 1 ≤ t ∧ t ≤ 4
    · simp only [known]
      rfl
    · simp only [known]
      rfl

/-- Tags are the numbers from one to four. -/
theorem reads_tag : Reads tag fun t bs => (1 ≤ t ∧ t ≤ 4) ∧ NaturalForm 1 t bs := by
  have reads := reads_natural 1
  constructor
  · intro x input t rest
    rw [run_tag]
    constructor
    · intro done
      rcases read : (natural x 1).run input with f | ⟨n, left⟩
      · rw [read] at done
        cases done
      · rw [read] at done
        obtain ⟨front, rfl, form⟩ := (reads.accepts x input n left).mp read
        dsimp only at done
        split at done
        · next known =>
          cases done
          exact ⟨front, rfl, known, form⟩
        · cases done
    · rintro ⟨front, rfl, known, form⟩
      rw [(reads.accepts x _ t rest).mpr ⟨front, rfl, form⟩]
      exact if_pos known
  · intro x input f failed
    rw [run_tag] at failed
    rcases read : (natural x 1).run input with e | ⟨n, left⟩
    · rw [read] at failed
      cases failed
      rcases reads.refuses x input e read with early | ⟨-, final⟩
      · exact Or.inl (.tag early)
      · refine Or.inr ⟨.format _ _, fun y same more => ?_⟩
        rw [run_tag, final y same more]
    · rw [read] at failed
      obtain ⟨front, rfl, form⟩ := (reads.accepts x input n left).mp read
      dsimp only at failed
      split at failed
      · cases failed
      · next unknown =>
        cases failed
        refine Or.inr ⟨.format _ _, fun y _ more => ?_⟩
        rw [run_tag, (reads.accepts y _ n (left ++ more)).mpr ⟨front, List.append_assoc .., form⟩]
        exact if_neg unknown

/-- The octet of a tag, as the number it is read as. -/
theorem naturalForm_tag {v : MetadataValue} : NaturalForm 1 v.tag.toNat bs ↔ bs = [v.tag] := by
  constructor
  · rintro ⟨length, same⟩
    obtain ⟨b, rfl⟩ := List.length_eq_one_iff.mp length
    rw [BigEndian.value, List.foldl_cons, List.foldl_nil, Nat.zero_mul, Nat.zero_add] at same
    rw [UInt8.toNat_inj.mp same]
  · rintro rfl
    refine ⟨rfl, ?_⟩
    rw [BigEndian.value, List.foldl_cons, List.foldl_nil, Nat.zero_mul, Nat.zero_add]

/-- Values are read in their form. -/
theorem reads_value (table : StringPools) :
    Reads (fun x => value x table) (ValueForm table) := by
  have others : ∀ t bs, (1 ≤ t ∧ t ≤ 4) ∧ NaturalForm 1 t bs → Reads (fun x =>
      if t = 3 then (do return .boolean ((← natural x 1) ≠ 0))
      else if t = 2 then (do return .integer (← integer x 8))
      else if t = 1 then (do return .string (← stringById x table))
      else (do return .reference (← stringById x table)))
      fun v payload => v.tag.toNat = t ∧ PayloadForm table v payload := by
    rintro t - ⟨⟨least, most⟩, -⟩
    obtain rfl | rfl | rfl | rfl : t = 1 ∨ t = 2 ∨ t = 3 ∨ t = 4 := by omega
    · refine ((reads_stringById table).map MetadataValue.string).congr fun v payload => ?_
      cases v <;> simp [MetadataValue.tag, PayloadForm]
    · refine ((reads_integer 8).map MetadataValue.integer).congr fun v payload => ?_
      cases v <;> simp [MetadataValue.tag, PayloadForm]
    · refine ((reads_natural 1).map fun n => MetadataValue.boolean (n ≠ 0)).congr
        fun v payload => ?_
      cases v <;> simp [MetadataValue.tag, PayloadForm, and_comm]
    · refine ((reads_stringById table).map MetadataValue.reference).congr fun v payload => ?_
      cases v <;> simp [MetadataValue.tag, PayloadForm]
  refine (reads_tag.bind others).congr fun v bs => ⟨?_, ?_⟩
  · rintro ⟨t, front, payload, rfl, ⟨-, field⟩, rfl, form⟩
    rw [naturalForm_tag.mp field]
    exact ⟨payload, rfl, form⟩
  · rintro ⟨payload, rfl, form⟩
    have within : 1 ≤ v.tag.toNat ∧ v.tag.toNat ≤ 4 := by cases v <;> simp [MetadataValue.tag]
    exact ⟨v.tag.toNat, [v.tag], payload, rfl, ⟨within, naturalForm_tag.mpr rfl⟩, rfl, form⟩

/-- Properties are read in their form. -/
theorem reads_property (table : StringPools) :
    Reads (fun x => property x table) (PropertyForm table) := by
  refine ((reads_stringById table).bind fun name _ _ => (reads_natural 4).bind fun n _ _ =>
    ((reads_value table).times n).map fun values => (name, values)).congr fun p bs => ⟨?_, ?_⟩
  · rintro ⟨name, front, _, rfl, form, _, size, content, rfl, field, values, rfl, rfl, items⟩
    exact ⟨front, size ++ content, rfl, form, size, content, rfl, field, items⟩
  · rintro ⟨front, _, rfl, form, size, content, rfl, field, items⟩
    exact ⟨p.1, front, size ++ content, rfl, form, p.2.length, size, content, rfl, field, p.2, rfl,
      rfl, items⟩

/-- The four ids that an object starts with, each found at its place. -/
theorem ids_iff {ids : Octets} {classifier path repository source : String} :
    (ids.length = 16 ∧
      table.classifier (BigEndian.signedValue ((ids.drop (4 * 0)).take 4)) = .ok classifier ∧
      table.string (BigEndian.signedValue ((ids.drop (4 * 1)).take 4)) = .ok path ∧
      table.string (BigEndian.signedValue ((ids.drop (4 * 2)).take 4)) = .ok repository ∧
      table.string (BigEndian.signedValue ((ids.drop (4 * 3)).take 4)) = .ok source) ↔
    ∃ a b c e, ids = a ++ b ++ c ++ e ∧ ClassifierForm table classifier a ∧
      StringForm table path b ∧ StringForm table repository c ∧ StringForm table source e := by
  simp only [classifierForm_iff, stringForm_iff]
  constructor
  · rintro ⟨sixteen, known⟩
    obtain ⟨a, b, c, e, rfl, first, second, third, fourth⟩ := exists_four_fields sixteen
    obtain ⟨at₀, at₁, at₂, at₃⟩ := four_fields first second third fourth
    rw [at₀, at₁, at₂, at₃] at known
    exact ⟨a, b, c, e, rfl, ⟨first, known.1⟩, ⟨second, known.2.1⟩, ⟨third, known.2.2.1⟩,
      fourth, known.2.2.2⟩
  · rintro ⟨a, b, c, e, rfl, ⟨first, known₀⟩, ⟨second, known₁⟩, ⟨third, known₂⟩, fourth, known₃⟩
    obtain ⟨at₀, at₁, at₂, at₃⟩ := four_fields first second third fourth
    rw [at₀, at₁, at₂, at₃]
    refine ⟨?_, known₀, known₁, known₂, known₃⟩
    simp only [List.length_append]
    omega

/-- Objects are read in their form. -/
theorem reads_object (table : StringPools) :
    Reads (fun x => object x table) (ObjectForm table) := by
  refine ((reads_take 16).bind fun ids _ _ => (reads_natural 4).bind fun n _ _ =>
    ((reads_property table).times n).bind fun ps _ _ =>
    (reads_orUnknown (table.classifier
      (BigEndian.signedValue ((ids.drop (4 * 0)).take 4)))).bind fun classifier _ _ =>
    (reads_orUnknown (table.string
      (BigEndian.signedValue ((ids.drop (4 * 1)).take 4)))).bind fun path _ _ =>
    (reads_orUnknown (table.string
      (BigEndian.signedValue ((ids.drop (4 * 2)).take 4)))).bind fun repository _ _ =>
    (reads_orUnknown (table.string
      (BigEndian.signedValue ((ids.drop (4 * 3)).take 4)))).map fun source =>
    (⟨classifier, path, repository, source, listed ps⟩ : MetadataObject)).congr
      fun o bs => ⟨?_, ?_⟩
  · rintro ⟨ids, _, _, rfl, ⟨rfl, sixteen⟩, _, size, _, rfl, field, ps, content, _, rfl,
      ⟨rfl, items⟩, classifier, _, _, rfl, ⟨known₀, rfl⟩, path, _, _, rfl, ⟨known₁, rfl⟩,
      repository, _, _, rfl, ⟨known₂, rfl⟩, source, rfl, known₃, rfl⟩
    obtain ⟨a, b, c, e, rfl, first, second, third, fourth⟩ :=
      ids_iff.mp ⟨sixteen, known₀, known₁, known₂, known₃⟩
    simp only [List.append_nil]
    exact ⟨a, b, c, e, size ++ content, rfl, first, second, third, fourth, ps,
      ⟨size, content, rfl, field, items⟩, rfl⟩
  · rintro ⟨a, b, c, e, _, rfl, first, second, third, fourth, ps,
      ⟨size, content, rfl, field, items⟩, same⟩
    obtain ⟨sixteen, known₀, known₁, known₂, known₃⟩ :=
      ids_iff.mpr ⟨a, b, c, e, rfl, first, second, third, fourth⟩
    refine ⟨a ++ b ++ c ++ e, _, size ++ content, rfl, ⟨rfl, sixteen⟩, ps.length, size, content,
      rfl, field, ps, content, [], (List.append_nil content).symm, ⟨rfl, items⟩, ?_⟩
    refine ⟨o.classifier, [], [], rfl, ⟨known₀, rfl⟩, o.path, [], [], rfl, ⟨known₁, rfl⟩,
      o.repository, [], [], rfl, ⟨known₂, rfl⟩, o.source, ?_, known₃, rfl⟩
    rw [← same]

/-! ## Whole files -/

/-- How a file is read: exactly if the form describes all of it. What such a file starts with ends
too early, and what stands behind such a file is left over. -/
structure ReadsFile (read : Extent → Decode α) (form : α → Octets → Prop) : Prop where
  accepts : ∀ x input a rest, (read x).run input = .ok (a, rest) ↔ rest = [] ∧ form a input
  refuses : ∀ x input f, (read x).run input = .error f → IsBroken f
  cut : ∀ x input more a, form a (input ++ more) → more ≠ [] →
    ∃ f, (read x).run input = .error f ∧ EndsEarly x.file f
  overlong : ∀ x input more a, form a input → more ≠ [] →
    (read x).run (input ++ more) = .error (.format (.trailing x.file more.length) none)

theorem run_atEnd_of_ne (x : Extent) (some : rest ≠ []) :
    (atEnd x).run rest = .error (.format (.trailing x.file rest.length) none) := by
  unfold atEnd
  rw [run_bind_of_ok (run_get rest)]
  cases rest with
  | nil => exact absurd rfl some
  | cons b rest => rfl

/-- What has the form is read, whatever comes behind it. -/
theorem Reads.run_of_form {step : Extent → Decode α} {form : α → Octets → Prop}
    (reads : Reads step form) (x : Extent) {a : α} (known : form a input) (rest : Octets) :
    (step x).run (input ++ rest) = .ok (a, rest) :=
  (reads.accepts x _ a rest).mpr ⟨input, rfl, known⟩

/-- What the octets of a value start with ends too early. -/
theorem Reads.cut {step : Extent → Decode α} {form : α → Octets → Prop} (reads : Reads step form)
    (x : Extent) {more : Octets} {a : α} (known : form a (input ++ more)) (some : more ≠ []) :
    ∃ f, (step x).run input = .error f ∧ EndsEarly x.file f := by
  have complete := reads.run_of_form x known []
  rw [List.append_nil] at complete
  rcases read : (step x).run input with f | ⟨b, left⟩
  · -- a refusal that more octets cannot mend would refuse all of them as well
    rcases reads.refuses x input f read with early | ⟨-, final⟩
    · exact ⟨f, rfl, early⟩
    · rw [final x rfl more] at complete
      cases complete
  · obtain ⟨front, rfl, part⟩ := (reads.accepts x input b left).mp read
    have again := reads.run_of_form x part (left ++ more)
    rw [← List.append_assoc, complete] at again
    have nothing : [] = left ++ more := congrArg Prod.snd (Except.ok.inj again)
    exact absurd (List.append_eq_nil_iff.mp nothing.symm).2 some

/-- Octets behind the end of a file are refused. -/
theorem run_ended_of_ne {step : Extent → Decode α} {x : Extent} {a : α}
    (read : (step x).run input = .ok (a, rest)) (some : rest ≠ []) :
    (step x >>= fun a => atEnd x >>= fun _ => pure a).run input =
      .error (.format (.trailing x.file rest.length) none) := by
  rw [run_bind_of_ok read, run_bind_of_error (run_atEnd_of_ne x some)]

/-- A file is read if its content is, up to its end. -/
theorem Reads.toFile {step : Extent → Decode α} {form : α → Octets → Prop}
    (reads : Reads step form) :
    ReadsFile (fun x => step x >>= fun a => atEnd x >>= fun _ => pure a) form := by
  constructor
  · intro x input a rest
    constructor
    · intro done
      rcases read : (step x).run input with f | ⟨b, left⟩
      · rw [run_bind_of_error read] at done
        cases done
      · by_cases none : left = []
        · subst none
          rw [run_bind_of_ok read] at done
          cases done
          obtain ⟨front, rfl, known⟩ := (reads.accepts x input _ []).mp read
          exact ⟨rfl, by rwa [List.append_nil]⟩
        · rw [run_ended_of_ne read none] at done
          cases done
    · rintro ⟨rfl, known⟩
      have complete := reads.run_of_form x known []
      rw [List.append_nil] at complete
      rw [run_bind_of_ok complete]
      rfl
  · intro x input f failed
    rcases read : (step x).run input with e | ⟨b, left⟩
    · rw [run_bind_of_error read] at failed
      cases failed
      exact (reads.refuses x input f read).elim EndsEarly.isBroken And.left
    · by_cases none : left = []
      · subst none
        rw [run_bind_of_ok read] at failed
        cases failed
      · rw [run_ended_of_ne read none] at failed
        cases failed
        exact .format _ _
  · intro x input more a known some
    obtain ⟨f, failed, early⟩ := reads.cut x known some
    exact ⟨f, run_bind_of_error failed _, early⟩
  · intro x input more a known some
    exact run_ended_of_ne (reads.run_of_form x known more) some

/-- The content of a file may be described in another way. -/
theorem ReadsFile.congr {file : Extent → Decode α} {form form' : α → Octets → Prop}
    (reads : ReadsFile file form) (same : ∀ a bs, form a bs ↔ form' a bs) :
    ReadsFile file form' := by
  have equal : form = form' := funext fun a => funext fun bs => propext (same a bs)
  rwa [← equal]

/-- The file of the pools is read in its form. -/
theorem reads_pools : ReadsFile pools StringsForm := by
  have content := (reads_header stringsMagic).bind fun _ _ _ => reads_pool.bind
    fun classifiers _ _ => reads_pool.map fun strings => (⟨classifiers, strings⟩ : StringPools)
  have file := content.toFile
  simp only [bind_assoc, pure_bind] at file
  refine file.congr fun table bs => ⟨?_, ?_⟩
  · rintro ⟨_, header, _, rfl, first, _, front, back, rfl, second, _, rfl, third⟩
    exact ⟨header, front, back, rfl, first, second, third⟩
  · rintro ⟨header, front, back, rfl, first, second, third⟩
    exact ⟨(), header, _, rfl, first, table.classifiers, front, back, rfl, second, table.strings,
      rfl, third⟩

/-- The file of the objects is read in its form. -/
theorem reads_objects (table : StringPools) :
    ReadsFile (fun x => objects x table) (ObjectsForm table) := by
  have content := (reads_header objectsMagic).bind fun _ _ _ => (reads_object table).list
  have file := content.toFile
  simp only [bind_assoc] at file
  refine file.congr fun os bs => ⟨?_, ?_⟩
  · rintro ⟨_, header, back, rfl, first, second⟩
    exact ⟨header, back, rfl, first, second⟩
  · rintro ⟨header, back, rfl, first, second⟩
    exact ⟨(), header, back, rfl, first, second⟩

end Metadata

end ModelForge
