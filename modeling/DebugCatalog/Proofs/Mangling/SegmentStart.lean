import DebugCatalog.Proofs.Mangling.Segments

/-!
# Where the last segment starts

The last segment can be found without taking a path apart: a scan over its bytes keeps how many
brackets are open, where the segment that is being read starts, and where it stands itself
(`startFrom`).  The path is then cut at `segmentStart`, a number that has to be in range and between
two characters.

Brackets and colons are single bytes, and no byte of another character is one of them.  So the scan
over the bytes and the one over the characters stay together (`Scans.begins`).

* `Scans d start s rest`: what a scan of the characters does from any state on, one step after the
  other.  `scans_segmentFrom`: this is what the last segment is found by.
* `Meets d s rest`: the scan meets a `::` at depth zero with `rest` behind it.  `Scans.isLastOr`:
  the last segment follows the last of these.
* `Scans.again`: where a segment starts, the scan is as it was in front of the path.
* `lastSegment_of_scan`: all this for any text.
-/

namespace DebugCatalog.Mangling

variable {s rest start : List Char} {d : Nat} {c : Char}

/-! ### The scan over characters -/

/-- The text does not begin with a separator, where so many brackets are open. -/
def NoSeparator (d : Nat) (s : List Char) : Prop :=
  d = 0 → ∀ tail, s ≠ ':' :: ':' :: tail

theorem noSeparator_cons (d : Nat) (h : ∀ tail, c = ':' → s = ':' :: tail → False) :
    NoSeparator d (c :: s) :=
  fun _ tail heq => h tail (List.cons.inj heq).1 (List.cons.inj heq).2

/-- A scan from left to right with so many brackets open, in a segment that starts at `start`, ends
in the segment `rest`.  At depth zero two colons in a row are a separator, and are passed together.
Every other character is passed alone. -/
inductive Scans : Nat → List Char → List Char → List Char → Prop
  | done (d : Nat) (start : List Char) : Scans d start [] start
  | separator {start s rest : List Char} : Scans 0 s s rest → Scans 0 start (':' :: ':' :: s) rest
  | further {d : Nat} {c : Char} {start s rest : List Char} (h : NoSeparator d (c :: s)) :
      Scans (depthStep d c) start s rest → Scans d start (c :: s) rest

theorem scans_segmentFrom (d : Nat) (start s : List Char) :
    Scans d start s (segmentFrom d start s) := by
  fun_induction segmentFrom d start s with
  | case1 d start => exact .done d start
  | case2 _ _ ih => exact .separator ih
  | case3 d start s hd ih => exact .further (absurd · hd) (.further (absurd · hd) ih)
  | case4 d start c s hpair hopening ih =>
    refine .further (noSeparator_cons d hpair) ?_
    rw [depthStep, if_pos (isOpening_iff.2 hopening)]
    exact ih
  | case5 d start c s hpair hopening hclosing ih =>
    refine .further (noSeparator_cons d hpair) ?_
    rw [depthStep, if_neg (mt isOpening_iff.1 hopening), if_pos (isClosing_iff.2 hclosing)]
    exact ih
  | case6 d start c s hpair hopening hclosing ih =>
    refine .further (noSeparator_cons d hpair) ?_
    rw [depthStep, if_neg (mt isOpening_iff.1 hopening), if_neg (mt isClosing_iff.1 hclosing)]
    exact ih

/-- The scan from here on meets a separator with `rest` behind it. -/
inductive Meets : Nat → List Char → List Char → Prop
  | here (rest : List Char) : Meets 0 (':' :: ':' :: rest) rest
  | behind {s rest : List Char} : Meets 0 s rest → Meets 0 (':' :: ':' :: s) rest
  | further {d : Nat} {c : Char} {s rest : List Char} (h : NoSeparator d (c :: s)) :
      Meets (depthStep d c) s rest → Meets d (c :: s) rest

namespace Meets

theorem separator_iff : Meets 0 (':' :: ':' :: s) rest ↔ s = rest ∨ Meets 0 s rest := by
  constructor
  · intro h
    cases h with
    | here => exact .inl rfl
    | behind h => exact .inr h
    | further hpair => exact absurd rfl (hpair rfl s)
  · rintro (rfl | h)
    · exact .here s
    · exact .behind h

theorem cons_iff (hpair : NoSeparator d (c :: s)) :
    Meets d (c :: s) rest ↔ Meets (depthStep d c) s rest := by
  constructor
  · intro h
    cases h with
    | here => exact absurd rfl (hpair rfl rest)
    | behind => exact absurd rfl (hpair rfl _)
    | further _ h => exact h
  · exact .further hpair

theorem length_lt (h : Meets d s rest) : rest.length < s.length := by
  induction h with
  | here rest => exact Nat.lt_add_of_pos_right Nat.two_pos
  | behind _ ih => exact ih.trans (Nat.lt_add_of_pos_right Nat.two_pos)
  | further _ _ ih => exact ih.trans (Nat.lt_succ_self _)

end Meets

namespace Scans

/-- The scan ends behind the last separator that it meets. -/
theorem isLastOr (h : Scans d start s rest) : IsLastOr (Meets d s) start rest := by
  induction h with
  | done d start => exact .inr ⟨rfl, fun _ => nofun⟩
  | @separator start s rest _ ih =>
    exact ih.separator (fun _ => Meets.separator_iff) (fun _ => Meets.length_lt) start
  | @further d c start s rest hpair _ ih =>
    have hmeets : Meets d (c :: s) = Meets (depthStep d c) s :=
      funext fun _ => propext (Meets.cons_iff hpair)
    rw [hmeets]
    exact ih

theorem unique {rest' : List Char} (h : Scans d start s rest) (h' : Scans d start s rest') :
    rest = rest' := by
  induction h with
  | done => cases h' with | done => rfl
  | separator _ ih =>
    cases h' with
    | separator h' => exact ih h'
    | further hpair => exact absurd rfl (hpair rfl _)
  | further hpair _ ih =>
    cases h' with
    | separator => exact absurd rfl (hpair rfl _)
    | further _ h' => exact ih h'

/-- A scan that starts at the segment it ends in stays in it.  For it comes from the start of the
segment to where it stands as it did before, whatever it holds for the start. -/
theorem again (h : Scans d start s rest)
    (hstart : ∀ x rest', Scans d x s rest' → Scans 0 x start rest') : Scans 0 rest rest rest := by
  induction h with
  | done d start => exact hstart start start (.done d start)
  | separator _ ih => exact ih fun _ _ => id
  | further hpair _ ih => exact ih fun x rest' hx => hstart x rest' (.further hpair hx)

end Scans

theorem lastSegment_lastSegment (name : String) :
    lastSegment (lastSegment name) = lastSegment name := by
  have hscan := (scans_segmentFrom 0 name.toList name.toList).again fun _ _ => id
  rw [lastSegment, lastSegment, String.toList_ofList]
  exact congrArg String.ofList ((scans_segmentFrom 0 _ _).unique hscan)

/-! ### The scan over bytes -/

def opens (b : UInt8) : Bool :=
  b == '<'.toUInt8 || b == '('.toUInt8 || b == '['.toUInt8

def closes (b : UInt8) : Bool :=
  b == '>'.toUInt8 || b == ')'.toUInt8 || b == ']'.toUInt8

/-- Where the last segment starts, given how many brackets are open, where the segment that is being
read starts, and where the scan is. -/
def startFrom (bytes : ByteArray) (depth start place : Nat) : Nat :=
  if h : place < bytes.size then
    if opens bytes[place] then startFrom bytes (depth + 1) start (place + 1)
    else if closes bytes[place] then startFrom bytes (depth - 1) start (place + 1)
    else if bytes[place] = ':'.toUInt8 ∧ depth = 0 ∧ bytes[place + 1]? = some ':'.toUInt8 then
      startFrom bytes depth (place + 2) (place + 2)
    else startFrom bytes depth start (place + 1)
  else start
termination_by bytes.size - place

def segmentStart (name : String) : Nat :=
  startFrom name.toUTF8 0 0 0

section Bytes

variable {bytes : ByteArray} {place : Nat} {b : UInt8}

theorem startFrom_of_byte (h : bytes[place]? = some b) (d start : Nat) :
    startFrom bytes d start place =
      if opens b then startFrom bytes (d + 1) start (place + 1)
      else if closes b then startFrom bytes (d - 1) start (place + 1)
      else if b = ':'.toUInt8 ∧ d = 0 ∧ bytes[place + 1]? = some ':'.toUInt8 then
        startFrom bytes d (place + 2) (place + 2)
      else startFrom bytes d start (place + 1) := by
  obtain ⟨hlt, rfl⟩ := getElem?_eq_some_iff.1 h
  rw [startFrom, dif_pos hlt]

theorem startFrom_of_none (h : bytes[place]? = none) (d start : Nat) :
    startFrom bytes d start place = start := by
  rw [startFrom, dif_neg (getElem?_eq_none_iff .. |>.1 h)]

/-- A character of seven bits is its own byte. -/
theorem utf8EncodeChar_of_lt (h : c.toNat < 0x80) : String.utf8EncodeChar c = [c.toUInt8] :=
  String.utf8EncodeChar_eq_singleton
    (Char.utf8Size_eq_one_iff.2 (UInt32.le_iff_toNat_le.2 (Nat.le_of_lt_succ h)))

theorem le_toNat_ofNat (m : Nat) {n k : Nat} (hn : 0 < n) (hk : 0x80 ≤ k) (hsum : k + n ≤ 0x100) :
    0x80 ≤ (UInt8.ofNat (m % n + k)).toNat := by
  have hm : m % n < n := Nat.mod_lt m hn
  rw [UInt8.toNat_ofNat', Nat.mod_eq_of_lt (by omega)]
  omega

/-- Of other characters, no byte has seven bits. -/
theorem le_of_mem_utf8EncodeChar (h : 0x80 ≤ c.toNat) (hb : b ∈ String.utf8EncodeChar c) :
    0x80 ≤ b.toNat := by
  have hwide : ¬c.val.toNat ≤ 0x7f := Nat.not_le.2 h
  revert hb
  fun_cases String.utf8EncodeChar with
  | case1 v hv => exact absurd hv hwide
  | case2 | case3 | case4 =>
    simp only [List.mem_cons, List.not_mem_nil, or_false]
    rintro (rfl | rfl | rfl | rfl)
    all_goals exact le_toNat_ofNat _ (by decide) (by decide) (by decide)

/-- The characters are what the bytes from here on stand for. -/
def Begins (bytes : ByteArray) (place : Nat) (s : List Char) : Prop :=
  place ≤ bytes.size ∧ bytes.data.toList.drop place = s.flatMap String.utf8EncodeChar

theorem getElem?_of_drop {bs : List UInt8} (h : bytes.data.toList.drop place = b :: bs) :
    bytes[place]? = some b := by
  have hhead : (bytes.data.toList.drop place)[0]? = some b := by rw [h]; rfl
  rw [List.getElem?_drop, Nat.add_zero, Array.getElem?_toList] at hhead
  exact hhead

theorem drop_add {as bs : List UInt8} (h : bytes.data.toList.drop place = as ++ bs) :
    bytes.data.toList.drop (place + as.length) = bs := by
  rw [← List.drop_drop, h, List.drop_left]

/-- Bytes of more than seven bits are passed over. -/
theorem startFrom_of_le {as bs : List UInt8} (h : bytes.data.toList.drop place = as ++ bs)
    (has : ∀ a ∈ as, 0x80 ≤ a.toNat) (d start : Nat) :
    startFrom bytes d start place = startFrom bytes d start (place + as.length) := by
  induction as generalizing place with
  | nil => rfl
  | cons a as ih =>
    obtain ⟨ha, has⟩ := List.forall_mem_cons.1 has
    have hne (c : Char) (hc : c.toUInt8.toNat < 0x80) : a ≠ c.toUInt8 := by
      rintro rfl
      omega
    have hopens : opens a = false := by
      simp [opens, hne '<' (by decide), hne '(' (by decide), hne '[' (by decide)]
    have hcloses : closes a = false := by
      simp [closes, hne '>' (by decide), hne ')' (by decide), hne ']' (by decide)]
    have hrest : bytes.data.toList.drop (place + 1) = as ++ bs := @drop_add _ _ [a] (as ++ bs) h
    rw [startFrom_of_byte (getElem?_of_drop h), hopens, hcloses, if_neg Bool.false_ne_true,
      if_neg Bool.false_ne_true, if_neg fun hcolon => hne ':' (by decide) hcolon.1,
      ih hrest has, List.length_cons, Nat.add_assoc, Nat.add_comm 1]

theorem toUInt8_eq_iff {c x : Char} (hc : c.toNat < 0x80) (hx : x.toNat < 0x80) :
    c.toUInt8 = x.toUInt8 ↔ c = x := by
  refine ⟨fun h => ?_, congrArg Char.toUInt8⟩
  have hnat : c.toNat % 0x100 = x.toNat % 0x100 := congrArg UInt8.toNat h
  exact Char.toNat_inj.1 (by omega)

theorem opens_toUInt8 (hc : c.toNat < 0x80) : opens c.toUInt8 = isOpening c := by
  have hiff {x : Char} (hx : x.toNat < 0x80) := toUInt8_eq_iff hc hx
  rw [Bool.eq_iff_iff, isOpening_iff]
  simp [opens, or_assoc, @hiff '<' (by decide), @hiff '(' (by decide), @hiff '[' (by decide)]

theorem closes_toUInt8 (hc : c.toNat < 0x80) : closes c.toUInt8 = isClosing c := by
  have hiff {x : Char} (hx : x.toNat < 0x80) := toUInt8_eq_iff hc hx
  rw [Bool.eq_iff_iff, isClosing_iff]
  simp [closes, or_assoc, @hiff '>' (by decide), @hiff ')' (by decide), @hiff ']' (by decide)]

/-- Brackets have seven bits. -/
theorem depthStep_of_le (hc : 0x80 ≤ c.toNat) (d : Nat) : depthStep d c = d := by
  have hne {x : Char} (hx : x.toNat < 0x80) : c ≠ x := by
    rintro rfl
    omega
  have hopening : ¬isOpening c = true := by
    simp [isOpening_iff, @hne '<' (by decide), @hne '(' (by decide), @hne '[' (by decide)]
  have hclosing : ¬isClosing c = true := by
    simp [isClosing_iff, @hne '>' (by decide), @hne ')' (by decide), @hne ']' (by decide)]
  rw [depthStep, if_neg hopening, if_neg hclosing]

namespace Begins

theorem cons (h : Begins bytes place (c :: s)) : Begins bytes (place + c.utf8Size) s := by
  have hrest := drop_add (h.2.trans List.flatMap_cons)
  have hlength := congrArg List.length h.2
  rw [String.length_utf8EncodeChar] at hrest
  rw [List.length_drop, Array.length_toList, List.flatMap_cons, List.length_append,
    String.length_utf8EncodeChar] at hlength
  have hsize : bytes.data.size = bytes.size := rfl
  exact ⟨by have := h.1; have := c.utf8Size_pos; omega, hrest⟩

theorem getElem?_nil (h : Begins bytes place []) : bytes[place]? = none := by
  have hlength := List.drop_eq_nil_iff.1 h.2
  exact getElem?_eq_none_iff .. |>.2 (Nat.not_lt.2 hlength)

/-- A byte of seven bits is a character. -/
theorem exists_cons {x : Char} (h : Begins bytes place s) (hx : x.toNat < 0x80)
    (hb : bytes[place]? = some x.toUInt8) : ∃ tail, s = x :: tail := by
  cases s with
  | nil => cases h.getElem?_nil.symm.trans hb
  | cons c s =>
    have hdrop := h.2.trans List.flatMap_cons
    obtain ⟨b, bs, hc⟩ := List.exists_cons_of_ne_nil (@String.utf8EncodeChar_ne_nil c)
    rw [hc, List.cons_append] at hdrop
    obtain rfl : b = x.toUInt8 := Option.some.inj ((getElem?_of_drop hdrop).symm.trans hb)
    by_cases hlt : c.toNat < 0x80
    · rw [utf8EncodeChar_of_lt hlt] at hc
      rw [(toUInt8_eq_iff hlt hx).1 (List.cons.inj hc).1]
      exact ⟨s, rfl⟩
    · have hle := le_of_mem_utf8EncodeChar (Nat.not_lt.1 hlt) (hc ▸ List.mem_cons_self ..)
      have hnat : x.toUInt8.toNat = x.toNat % 0x100 := rfl
      omega

/-- One step of the scan passes over the bytes of one character. -/
theorem startFrom_cons (h : Begins bytes place (c :: s)) (hpair : NoSeparator d (c :: s))
    (start : Nat) :
    startFrom bytes d start place = startFrom bytes (depthStep d c) start (place + c.utf8Size) := by
  have hdrop := h.2.trans List.flatMap_cons
  have hnext := h.cons
  by_cases hc : c.toNat < 0x80
  · have hsize : c.utf8Size = 1 := by
      rw [← String.length_utf8EncodeChar, utf8EncodeChar_of_lt hc]
      rfl
    rw [utf8EncodeChar_of_lt hc] at hdrop
    rw [hsize] at hnext ⊢
    have hseparator :
        ¬(c.toUInt8 = ':'.toUInt8 ∧ d = 0 ∧ bytes[place + 1]? = some ':'.toUInt8) := by
      rintro ⟨hcolon, hd, hsecond⟩
      -- the second byte is no part of a longer character
      obtain ⟨tail, rfl⟩ := hnext.exists_cons (by decide) hsecond
      rw [(toUInt8_eq_iff hc (by decide)).1 hcolon] at hpair
      exact hpair hd tail rfl
    rw [startFrom_of_byte (getElem?_of_drop hdrop), opens_toUInt8 hc, closes_toUInt8 hc,
      if_neg hseparator, depthStep]
    split
    · rfl
    · split <;> rfl
  · rw [depthStep_of_le (Nat.not_lt.1 hc),
      startFrom_of_le hdrop fun _ => le_of_mem_utf8EncodeChar (Nat.not_lt.1 hc),
      String.length_utf8EncodeChar]

end Begins

/-- The scan over the bytes ends where the segment begins that the scan over the characters ends
in. -/
theorem Scans.begins (h : Scans d start s rest) {first : Nat} (hstart : Begins bytes first start)
    (hs : Begins bytes place s) : Begins bytes (startFrom bytes d first place) rest := by
  induction h generalizing first place with
  | done d start =>
    rw [startFrom_of_none hs.getElem?_nil]
    exact hstart
  | @separator start s rest _ ih =>
    have hdrop : bytes.data.toList.drop place =
        ':'.toUInt8 :: ':'.toUInt8 :: s.flatMap String.utf8EncodeChar := hs.2
    have hsecond : bytes.data.toList.drop (place + 1) =
        ':'.toUInt8 :: s.flatMap String.utf8EncodeChar := @drop_add _ _ [':'.toUInt8] _ hdrop
    have hrest : Begins bytes (place + 2) s := hs.cons.cons
    rw [startFrom_of_byte (getElem?_of_drop hdrop), if_neg (by decide), if_neg (by decide),
      if_pos ⟨rfl, rfl, getElem?_of_drop hsecond⟩]
    exact ih hrest hrest
  | further hpair _ ih =>
    rw [hs.startFrom_cons hpair]
    exact ih hstart hs.cons

end Bytes

theorem toList_toUTF8 (name : String) :
    name.toUTF8.data.toList = name.toList.flatMap String.utf8EncodeChar := by
  rw [String.toUTF8_eq_toByteArray, ← String.utf8Encode_toList, List.utf8Encode,
    List.toList_data_toByteArray]

theorem begins_segmentStart (name : String) :
    Begins name.toUTF8 (segmentStart name) (lastSegment name).toList := by
  have hname : Begins name.toUTF8 0 name.toList := ⟨Nat.zero_le _, toList_toUTF8 name⟩
  rw [lastSegment, String.toList_ofList]
  exact (scans_segmentFrom 0 _ _).begins hname hname

theorem length_flatMap_utf8EncodeChar (name : String) :
    (name.toList.flatMap String.utf8EncodeChar).length = name.utf8ByteSize := by
  rw [← toList_toUTF8]
  rfl

/-- The path is cut between two characters. -/
theorem exists_append_lastSegment (name : String) :
    ∃ before, name = before ++ lastSegment name ∧ before.utf8ByteSize = segmentStart name := by
  obtain ⟨before, hbefore⟩ := lastSegment_suffix name
  have hname : name = String.ofList before ++ lastSegment name := by
    rw [← String.toList_inj, String.toList_append, String.toList_ofList, hbefore]
  obtain ⟨hle, hdrop⟩ := begins_segmentStart name
  have hsize : name.utf8ByteSize = (String.ofList before).utf8ByteSize +
      (lastSegment name).utf8ByteSize := by
    rw [← String.utf8ByteSize_append, ← hname]
  have hlength := congrArg List.length hdrop
  rw [List.length_drop, toList_toUTF8, length_flatMap_utf8EncodeChar,
    length_flatMap_utf8EncodeChar] at hlength
  have hbound : segmentStart name ≤ name.utf8ByteSize := hle
  exact ⟨String.ofList before, hname, by omega⟩

/-- **The last segment of any text.**  Brackets may be balanced or not, and characters may have any
number of bytes: the place where the last segment starts is in range and between two characters, and
the segment is all that follows.  It is what follows the last separator that a scan from left to
right meets, and its own last segment is itself. -/
theorem lastSegment_of_scan (name : String) :
    segmentStart name ≤ name.utf8ByteSize ∧
    (String.Pos.Raw.mk (segmentStart name)).IsValid name ∧
    (∃ before, name = before ++ lastSegment name ∧ before.utf8ByteSize = segmentStart name) ∧
    (lastSegment name).toList <:+ name.toList ∧
    IsLastOr (Meets 0 name.toList) name.toList (lastSegment name).toList ∧
    lastSegment (lastSegment name) = lastSegment name := by
  obtain ⟨before, hname, hstart⟩ := exists_append_lastSegment name
  refine ⟨(begins_segmentStart name).1, ?_, ⟨before, hname, hstart⟩, lastSegment_suffix name, ?_,
    lastSegment_lastSegment name⟩
  · exact String.Pos.Raw.isValid_iff_exists_append.2
      ⟨before, lastSegment name, hname, String.Pos.Raw.ext hstart.symm⟩
  · rw [lastSegment, String.toList_ofList]
    exact (scans_segmentFrom 0 _ _).isLastOr

/-- A bracket too many is passed over, and of three colons the first two go together. -/
example : lastSegment "é>)::<ü::a>:::ß" = ":ß" := by decide

end DebugCatalog.Mangling
