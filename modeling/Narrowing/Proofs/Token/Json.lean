import Narrowing.Proofs.Token.ReadBack
import Narrowing.Token.Json
/-!
# What JSON documents hold

A JSON document is one of the forms of data that always have a value: its integers fit in 64
bits, whatever is longer being a double, and the names of its objects are texts.  So reading a
value from a document can only fail where the text is no document.

The lexemes of a text hold such data one by one.  The reader puts them together step by step,
and what it keeps meanwhile, the complete items of the arrays and objects that are still open,
is such data too (`Reader.Sound`).
-/

namespace Narrowing.Json

open Token (Readable)

/-! ### Numbers -/

lemma readable_of_finite? {x : Double} {token : Token}
    (h : integerToken?.finite? x = some token) : token.Readable := by
  unfold integerToken?.finite? at h
  split at h
  · exact Option.some.inj h ▸ .number _
  · exact nomatch h

/-- An integer that does not fit in 64 bits is a double. -/
lemma readable_of_integerToken? {negative : Bool} {n : Nat} {token : Token}
    (h : integerToken? negative n = some token) : token.Readable := by
  have h63 : Nat.pow 2 63 = 2 ^ 63 := rfl
  have h64 : Nat.pow 2 64 = 2 ^ 64 := rfl
  unfold integerToken? at h
  split at h
  · exact Option.some.inj h ▸ .number _
  · split at h
    · exact Option.some.inj h ▸ .integer (by omega) (by omega)
    · split at h
      · exact Option.some.inj h ▸ .integer (by omega) (by omega)
      · exact readable_of_finite? h

lemma readable_of_scanNumber {cs rest : List Char} {token : Token}
    (h : scanNumber cs = some (token, rest)) : token.Readable := by
  unfold scanNumber at h
  simp only [Option.bind_eq_bind, Option.bind_eq_some_iff] at h
  obtain ⟨whole, -, fraction, -, exponent, -, h⟩ := h
  split at h <;> obtain ⟨found, hfound, heq⟩ := Option.bind_eq_some_iff.1 h
  · obtain rfl := (Prod.mk.inj (Option.some.inj heq)).1
    exact readable_of_integerToken? hfound
  · obtain rfl := (Prod.mk.inj (Option.some.inj heq)).1
    exact readable_of_finite? hfound

/-! ### Lexemes -/

/-- A lexeme that is a scalar is one that can be read. -/
def Lexeme.Sound (lexeme : Lexeme) : Prop := ∀ token, lexeme = .scalar token → token.Readable

lemma Lexeme.sound_of_scan {cs rest : List Char} {lexeme : Lexeme}
    (h : scan cs = some (lexeme, rest)) : lexeme.Sound := by
  rintro token rfl
  unfold scan at h
  split at h
  -- after a quote comes a text
  case h_7 =>
    obtain ⟨found, -, heq⟩ := Option.map_eq_some_iff.1 h
    exact nomatch (Prod.mk.inj heq).1
  -- what is neither punctuation nor a word is a number
  case h_11 =>
    obtain ⟨found, hfound, heq⟩ := Option.map_eq_some_iff.1 h
    obtain rfl := Lexeme.scalar.inj (Prod.mk.inj heq).1
    exact readable_of_scanNumber hfound
  all_goals cases h
  · exact .unit
  · exact .boolean true
  · exact .boolean false

lemma Lexeme.sound_of_ofChars? {cs : List Char} {lexemes : List Lexeme}
    (h : ofChars? cs = some lexemes) : ∀ lexeme ∈ lexemes, lexeme.Sound := by
  induction cs using Lexeme.ofChars?.induct generalizing lexemes with
  | case1 =>
    rw [ofChars?] at h
    exact Option.some.inj h ▸ nofun
  | case2 c rest hspace ih =>
    rw [ofChars?, if_pos hspace] at h
    exact ih h
  | case3 c rest hspace lexeme left hscan hshorter ih =>
    rw [ofChars?, if_neg hspace, hscan] at h
    obtain ⟨further, hfurther, rfl⟩ := Option.map_eq_some_iff.1 ((dif_pos hshorter).symm.trans h)
    exact List.forall_mem_cons.2 ⟨sound_of_scan hscan, ih hfurther⟩
  | case4 c rest hspace lexeme left hscan hshorter =>
    rw [ofChars?, if_neg hspace, hscan] at h
    exact nomatch (dif_neg hshorter).symm.trans h
  | case5 c rest hspace hscan =>
    rw [ofChars?, if_neg hspace, hscan] at h
    exact nomatch h

/-! ### Documents -/

/-- The members of an object have texts for names. -/
def IsMember (m : Token × Token) : Prop := (∃ s, m.1 = .text s) ∧ m.2.Readable

lemma readable_map {members : List (Token × Token)} (h : ∀ m ∈ members, IsMember m) :
    (Token.map members).Readable := by
  have hnames : ∃ named : List (String × Token),
      members = named.map (fun m => (.text m.1, m.2)) ∧ ∀ m ∈ named, m.2.Readable := by
    induction members with
    | nil => exact ⟨[], rfl, nofun⟩
    | cons m rest ih =>
      obtain ⟨⟨⟨s, hs⟩, hm⟩, hrest⟩ := List.forall_mem_cons.1 h
      obtain ⟨named, rfl, hnamed⟩ := ih hrest
      exact ⟨(s, m.2) :: named, by rw [List.map_cons, ← hs], List.forall_mem_cons.2 ⟨hm, hnamed⟩⟩
  obtain ⟨named, rfl, hnamed⟩ := hnames
  exact .record hnamed

/-- What is complete of an open array or object can be read. -/
def Frame.Sound : Frame → Prop
  | .array items => ∀ item ∈ items, item.Readable
  | .object members => ∀ m ∈ members, IsMember m
  | .member members _ => ∀ m ∈ members, IsMember m

namespace Reader

/-- What the reader keeps can be read. -/
structure Sound (r : Reader) : Prop where
  frames : ∀ frame ∈ r.frames, frame.Sound
  document : ∀ token, r.document = some token → token.Readable

lemma Sound.frames_eq_cons {r : Reader} {frame : Frame} {rest : List Frame} (hr : r.Sound)
    (h : r.frames = frame :: rest) : frame.Sound ∧ ∀ other ∈ rest, other.Sound :=
  List.forall_mem_cons.1 (h ▸ hr.frames)

lemma sound_of_complete {frames : List Frame} {token : Token} {r : Reader}
    (hframes : ∀ frame ∈ frames, frame.Sound) (htoken : token.Readable)
    (h : complete frames token = some r) : r.Sound := by
  unfold complete at h
  split at h
  case h_1 => exact Option.some.inj h ▸ ⟨nofun, fun _ heq => Option.some.inj heq ▸ htoken⟩
  case h_2 items rest =>
    obtain ⟨hitems, hrest⟩ := List.forall_mem_cons.1 hframes
    have hframe : (Frame.array (token :: items)).Sound := List.forall_mem_cons.2 ⟨htoken, hitems⟩
    exact Option.some.inj h ▸ ⟨List.forall_mem_cons.2 ⟨hframe, hrest⟩, nofun⟩
  case h_3 members name rest =>
    obtain ⟨hmembers, hrest⟩ := List.forall_mem_cons.1 hframes
    have hframe : (Frame.object ((.text name, token) :: members)).Sound :=
      List.forall_mem_cons.2 ⟨⟨⟨name, rfl⟩, htoken⟩, hmembers⟩
    exact Option.some.inj h ▸ ⟨List.forall_mem_cons.2 ⟨hframe, hrest⟩, nofun⟩
  case h_4 => exact nomatch h

lemma Sound.openFrame {r r' : Reader} {frame : Frame} {expected : Expected} (hr : r.Sound)
    (h : r.openFrame frame expected = some r') (hframe : frame.Sound) : r'.Sound := by
  unfold Reader.openFrame at h
  split at h
  · exact Option.some.inj h ▸ ⟨List.forall_mem_cons.2 ⟨hframe, hr.frames⟩, nofun⟩
  · exact nomatch h

/-- One more lexeme. -/
lemma Sound.step {r r' : Reader} {lexeme : Lexeme} (hr : r.Sound) (hlexeme : lexeme.Sound)
    (h : r.step lexeme = some r') : r'.Sound := by
  unfold Reader.step at h
  split at h
  -- a value that is no array or object
  case h_1 | h_2 => exact sound_of_complete hr.frames (hlexeme _ rfl) h
  case h_3 | h_4 => exact sound_of_complete hr.frames (.text _) h
  -- what opens an array or object
  case h_5 | h_6 | h_7 | h_8 => exact hr.openFrame h (List.forall_mem_nil _)
  -- in an array
  case h_9 hframes | h_10 hframes =>
    obtain ⟨hitems, hrest⟩ := hr.frames_eq_cons hframes
    exact sound_of_complete hrest (.sequence fun item h => hitems item (List.mem_reverse.1 h)) h
  case h_11 hframes => exact Option.some.inj h ▸ ⟨hframes ▸ hr.frames, nofun⟩
  -- in an object
  case h_12 hframes | h_13 hframes =>
    obtain ⟨hmembers, hrest⟩ := hr.frames_eq_cons hframes
    exact Option.some.inj h ▸ ⟨List.forall_mem_cons.2 ⟨hmembers, hrest⟩, nofun⟩
  case h_14 => exact Option.some.inj h ▸ ⟨hr.frames, nofun⟩
  case h_15 hframes | h_16 hframes =>
    obtain ⟨hmembers, hrest⟩ := hr.frames_eq_cons hframes
    exact sound_of_complete hrest (readable_map fun m h => hmembers m (List.mem_reverse.1 h)) h
  case h_17 hframes => exact Option.some.inj h ▸ ⟨hframes ▸ hr.frames, nofun⟩
  case h_18 => exact nomatch h

/-- One lexeme after the other. -/
lemma Sound.steps {lexemes : List Lexeme} {r r' : Reader} (hr : r.Sound)
    (hlexemes : ∀ lexeme ∈ lexemes, lexeme.Sound) (h : lexemes.foldlM Reader.step r = some r') :
    r'.Sound := by
  induction lexemes generalizing r with
  | nil => exact Option.some.inj h ▸ hr
  | cons lexeme rest ih =>
    rw [List.foldlM_cons, Option.bind_eq_bind] at h
    obtain ⟨next, hnext, hrest⟩ := Option.bind_eq_some_iff.1 h
    obtain ⟨hlexeme, hlexemes⟩ := List.forall_mem_cons.1 hlexemes
    exact ih (hr.step hlexeme hnext) hlexemes hrest

end Reader

/-- What a document holds can be read. -/
theorem readable_of_ofString? {s : String} {token : Token} (h : ofString? s = some token) :
    token.Readable := by
  unfold ofString? at h
  simp only [Option.bind_eq_bind, Option.bind_eq_some_iff] at h
  obtain ⟨lexemes, hlexemes, r, hr, hdocument⟩ := h
  have hstart : Reader.Sound {} := ⟨nofun, nofun⟩
  exact (hstart.steps (Lexeme.sound_of_ofChars? hlexemes) hr).document token hdocument

/-- **A document always has a value.**  Reading the value does not fail, and a program reads the
document off it and finds nothing else in it. -/
theorem document_reads_back {γ : Type} {s : String} {token : Token}
    (h : ofString? s = some token) (supply : Supply) :
    ∃ (v : Value γ) (rest : Supply),
      token.toValue.run.run supply = (.ok v, rest) ∧ v.ReadsAs token ∧ v.IsData := by
  obtain ⟨v, rest, hrun, hv⟩ := (readable_of_ofString? h).gives_toValue supply
  exact ⟨v, rest, hrun, hv, Value.isData_of_readsAs hv⟩

/-- An array, a comma too many, a number that is too large, and a name that comes twice. -/
example : ["[1, null]", "[1,]", "1e400", "\x7b\"a\": -0, \"a\": []\x7d"].map
    (fun s => (ofString? s).isSome) = [true, false, false, true] := by decide +kernel

end Narrowing.Json
