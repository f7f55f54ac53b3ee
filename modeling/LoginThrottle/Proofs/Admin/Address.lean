import LoginThrottle.Admin.Address
import LoginThrottle.Proofs.Text.Decimal
import LoginThrottle.Proofs.Text.Separator

/-!
Addresses are read back as they are written. The pieces between dots or colons hold none of these,
so the text falls into them again; the one `::` marks the only place where groups are missing, and
what is missing there is the run of zero groups that was left out. `ofPeer?_text` puts this
together for a peer, which is known by its address, possibly with a scope, and its port: whatever
the port and the scope, reading gives the address.
-/

set_option autoImplicit false
set_option relaxedAutoImplicit false

namespace LoginThrottle

namespace Address

/-- Four bytes, or eight groups of two bytes. -/
def Proper : Address → Prop
  | .bytes parts => parts.length = 4 ∧ ∀ part ∈ parts, part < 256
  | .groups parts => parts.length = 8 ∧ ∀ part ∈ parts, part < 65536

/-! ### Pieces -/

/-- The marks that an address and a port are put together with are not digits. -/
theorem notMem_writeNat {mark : Char} (hmark : Text.isDigit mark = false) (n : Nat) :
    mark ∉ Text.writeNat n :=
  fun hmem ↦ Bool.false_ne_true (hmark.symm.trans (Text.isDigit_of_mem_writeNat hmem))

theorem notMem_writeHex {mark : Char} (hmark : Text.hexValue? mark = none) (n : Nat) :
    mark ∉ Text.writeHex n := by
  intro hmem
  have hsome := Text.isSome_hexValue?_of_mem_writeHex hmem
  rw [hmark] at hsome
  exact Bool.false_ne_true hsome

theorem mapM_map_eq_some {α β : Type} {read : β → Option α} {write : α → β} {items : List α}
    (h : ∀ item ∈ items, read (write item) = some item) :
    (items.map write).mapM read = some items := by
  induction items with
  | nil => rfl
  | cons item rest ih =>
    have hfirst : read (write item) = some item := h item List.mem_cons_self
    have hrest := ih fun other hother ↦ h other (List.mem_cons_of_mem item hother)
    rw [List.map_cons, List.mapM_cons, hfirst, hrest]
    rfl

theorem notMem_intercalate {mark separator : Char} (hmark : mark ≠ separator)
    {pieces : List (List Char)} (h : ∀ piece ∈ pieces, mark ∉ piece) :
    mark ∉ [separator].intercalate pieces := by
  induction pieces with
  | nil => simp
  | cons piece rest ih =>
    have hpiece : mark ∉ piece := h piece List.mem_cons_self
    have hrest := ih fun other hother ↦ h other (List.mem_cons_of_mem piece hother)
    cases rest with
    | nil => simpa using hpiece
    | cons next rest =>
      rw [List.intercalate_cons_cons, List.mem_append, List.mem_append, List.mem_singleton]
      rintro ((hmem | rfl) | hmem)
      · exact hpiece hmem
      · exact hmark rfl
      · exact hrest hmem

theorem notMem_writeBytes {mark : Char} (hdigit : Text.isDigit mark = false) (hdot : mark ≠ '.')
    (parts : List Nat) : mark ∉ writeBytes parts := by
  refine notMem_intercalate hdot fun piece hpiece ↦ ?_
  obtain ⟨n, -, rfl⟩ := List.mem_map.mp hpiece
  exact notMem_writeNat hdigit n

theorem notMem_writeGroups {mark : Char} (hhex : Text.hexValue? mark = none) (hcolon : mark ≠ ':')
    (parts : List Nat) : mark ∉ writeGroups parts := by
  refine notMem_intercalate hcolon fun piece hpiece ↦ ?_
  obtain ⟨n, -, rfl⟩ := List.mem_map.mp hpiece
  exact notMem_writeHex hhex n

/-! ### Four bytes -/

theorem readByte?_writeNat {n : Nat} (h : n < 256) : readByte? (Text.writeNat n) = some n := by
  have hleading : (Text.writeNat n).length = 1 ∨ (Text.writeNat n).head? ≠ some '0' := by
    rcases Nat.eq_zero_or_pos n with rfl | hpos
    · exact Or.inl (by rw [Text.writeNat_of_lt (by decide)]; rfl)
    · exact Or.inr (Text.head?_writeNat_ne_zero hpos)
  have haccepted : (decide (n < 256) && (decide ((Text.writeNat n).length = 1)
      || (Text.writeNat n).head? != some '0')) = true := by
    simpa [h] using hleading
  rw [readByte?, Text.readNat?_writeNat, Option.bind_eq_bind, Option.bind_some, if_pos haccepted]

theorem readBytes?_writeBytes {parts : List Nat} (h : (bytes parts).Proper) :
    readBytes? (writeBytes parts) = some parts := by
  have hne : parts.map Text.writeNat ≠ [] := by
    intro hnil
    have hlength := h.1
    rw [List.map_eq_nil_iff.mp hnil] at hlength
    exact absurd hlength (by decide)
  have hpieces : Text.splitAll '.' (writeBytes parts) = parts.map Text.writeNat := by
    refine Text.splitAll_intercalate hne fun piece hpiece ↦ ?_
    obtain ⟨n, -, rfl⟩ := List.mem_map.mp hpiece
    exact notMem_writeNat (by decide) n
  have hread := mapM_map_eq_some fun part hpart ↦ readByte?_writeNat (h.2 part hpart)
  rw [readBytes?, hpieces, hread]
  simp [h.1]

/-! ### Eight groups -/

theorem readHex?_writeHex {n : Nat} (h : n < 65536) : readHex? (Text.writeHex n) = some n := by
  have hlength : (Text.writeHex n).length ≤ 4 := Text.length_writeHex_le 3 h
  have hne : (Text.writeHex n).isEmpty = false := by
    simp [Text.writeHex_ne_nil]
  rw [readHex?, hne, if_neg (by simp; omega), Text.foldlM_hexValue?_writeHex]

theorem writeGroups_singleton (part : Nat) : writeGroups [part] = Text.writeHex part :=
  List.intercalate_singleton

theorem writeGroups_cons_cons (part next : Nat) (rest : List Nat) :
    writeGroups (part :: next :: rest) =
      Text.writeHex part ++ ':' :: writeGroups (next :: rest) := by
  rw [writeGroups, List.map_cons, List.map_cons, List.intercalate_cons_cons, List.append_assoc]
  rfl

theorem head?_writeGroups (part : Nat) (rest : List Nat) :
    (writeGroups (part :: rest)).head? = (Text.writeHex part).head? := by
  cases rest with
  | nil => rw [writeGroups_singleton]
  | cons next rest =>
    rw [writeGroups_cons_cons, List.head?_append,
      Option.or_of_isSome (by simp [Text.writeHex_ne_nil])]

/-- Groups are found again between their colons, if there are any. -/
theorem readGroups?_writeGroups {parts : List Nat} (h : ∀ part ∈ parts, part < 65536) :
    readGroups? (writeGroups parts) = some parts := by
  cases parts with
  | nil => rfl
  | cons part rest =>
    have hpieces : Text.splitAll ':' (writeGroups (part :: rest)) =
        (part :: rest).map Text.writeHex := by
      refine Text.splitAll_intercalate (by simp) fun piece hpiece ↦ ?_
      obtain ⟨n, -, rfl⟩ := List.mem_map.mp hpiece
      exact notMem_writeHex (by decide) n
    have hne : (writeGroups (part :: rest)).isEmpty = false := by
      cases rest with
      | nil => simp [writeGroups_singleton, Text.writeHex_ne_nil]
      | cons next rest => simp [writeGroups_cons_cons]
    have hlast : ((((part :: rest).map Text.writeHex).getLast?).getD []).contains '.' = false := by
      rw [List.getLast?_map, List.getLast?_eq_some_getLast (List.cons_ne_nil part rest),
        Option.map_some, Option.getD_some, List.contains_eq_mem, decide_eq_false_iff_not]
      exact notMem_writeHex (by decide) _
    have hread := mapM_map_eq_some fun part hpart ↦ readHex?_writeHex (h part hpart)
    simp only [readGroups?, hne, hpieces, hlast, hread, Bool.false_eq_true, if_false]

theorem splitGap_append_of_notMem {piece : List Char} (h : ':' ∉ piece) (rest : List Char) :
    splitGap (piece ++ rest) =
      (splitGap rest).map fun (before, after) ↦ (piece ++ before, after) := by
  induction piece with
  | nil => cases hrest : splitGap rest <;> simp [hrest]
  | cons c piece ih =>
    rw [List.mem_cons, not_or] at h
    rw [List.cons_append, splitGap, ih h.2, Option.map_map]
    · rfl
    · rintro _ rfl
      exact absurd rfl h.1

theorem splitGap_colon {text : List Char} (h : ':' ∉ text.head?) :
    splitGap (':' :: text) = (splitGap text).map fun (before, after) ↦ (':' :: before, after) := by
  rw [splitGap]
  rintro rest - rfl
  exact h rfl

/-- Written groups hold no `::`, and together with what follows they make none. -/
theorem splitGap_writeGroups_append (parts : List Nat) (rest : List Char) :
    splitGap (writeGroups parts ++ rest) =
      (splitGap rest).map fun (before, after) ↦ (writeGroups parts ++ before, after) := by
  have hcolon (n : Nat) : ':' ∉ Text.writeHex n := notMem_writeHex (by decide) n
  induction parts with
  | nil => cases hrest : splitGap rest <;> simp [writeGroups, hrest]
  | cons part parts ih =>
    cases parts with
    | nil => rw [writeGroups_singleton, splitGap_append_of_notMem (hcolon part)]
    | cons next parts =>
      have hhead : ':' ∉ (writeGroups (next :: parts) ++ rest).head? := by
        rw [List.head?_append, head?_writeGroups,
          Option.or_of_isSome (by simp [Text.writeHex_ne_nil])]
        exact fun hmem ↦ hcolon next (List.mem_of_mem_head? hmem)
      rw [writeGroups_cons_cons, List.append_assoc, splitGap_append_of_notMem (hcolon part),
        List.cons_append, splitGap_colon hhead, ih, Option.map_map, Option.map_map]
      refine Option.map_congr fun parts _ ↦ ?_
      simp

/-! ### The run that is left out -/

theorem take_zeroRun (parts : List Nat) :
    parts.take (zeroRun parts) = List.replicate (zeroRun parts) 0 := by
  have htake : parts.take (zeroRun parts) = parts.takeWhile (· == 0) :=
    (List.prefix_iff_eq_take.mp (List.takeWhile_prefix _)).symm
  rw [htake, List.eq_replicate_iff]
  exact ⟨rfl, fun part hpart ↦ by simpa using List.all_eq_true.mp List.all_takeWhile part hpart⟩

/-- A run of zero groups, by its start and its length. -/
def IsZeroRun (parts : List Nat) (run : Nat × Nat) : Prop :=
  (parts.drop run.1).take run.2 = List.replicate run.2 0

theorem isZeroRun_longestRun (parts : List Nat) : IsZeroRun parts (longestRun parts) := by
  have fold (starts : List Nat) (best : Nat × Nat) (hbest : IsZeroRun parts best) :
      IsZeroRun parts (starts.foldl
        (fun best start ↦
          if best.2 < zeroRun (parts.drop start) then (start, zeroRun (parts.drop start)) else best)
        best) := by
    induction starts generalizing best with
    | nil => exact hbest
    | cons start rest ih =>
      refine ih _ ?_
      beta_reduce
      split
      · exact take_zeroRun (parts.drop start)
      · exact hbest
  exact fold (List.range parts.length) (0, 0) rfl

/-- What is written with a gap is read with zero groups in it, as many as there were. -/
theorem append_replicate_append {parts : List Nat} {run : Nat × Nat} (h : IsZeroRun parts run) :
    parts.take run.1 ++ List.replicate run.2 0 ++ parts.drop (run.1 + run.2) = parts := by
  rw [← h, List.append_assoc, ← List.drop_drop, List.take_append_drop, List.take_append_drop]

/-! ### Reading back -/

theorem readLong?_writeGroups {parts : List Nat} (h : (groups parts).Proper) :
    readLong? (writeGroups parts) = some (.groups parts) := by
  have hgap : splitGap (writeGroups parts) = none := by
    have hnone := splitGap_writeGroups_append parts []
    rwa [List.append_nil] at hnone
  rw [readLong?, hgap]
  simp only [readGroups?_writeGroups h.2, Option.bind_eq_bind, Option.bind_some, if_pos h.1]

theorem readLong?_gap {front back : List Nat} (hfront : ∀ part ∈ front, part < 65536)
    (hback : ∀ part ∈ back, part < 65536) (hroom : front.length + back.length < 8) :
    readLong? (writeGroups front ++ [':', ':'] ++ writeGroups back) =
      some (.groups (front ++ List.replicate (8 - (front.length + back.length)) 0 ++ back)) := by
  have hgap : splitGap (writeGroups front ++ [':', ':'] ++ writeGroups back) =
      some (writeGroups front, writeGroups back) := by
    rw [List.append_assoc, splitGap_writeGroups_append]
    simp [splitGap]
  have hpos : 0 < 8 - (front.length + back.length) := by omega
  rw [readLong?, hgap]
  simp only [readGroups?_writeGroups hfront, readGroups?_writeGroups hback, Option.bind_eq_bind,
    Option.bind_some, if_pos hpos]

/-- The last two groups may be written as four bytes. -/
theorem readGroups?_bytes {part a b c d : Nat} (hpart : part < 65536)
    (hbytes : (bytes [a, b, c, d]).Proper) :
    readGroups? (Text.writeHex part ++ ':' :: writeBytes [a, b, c, d]) =
      some [part, 256 * a + b, 256 * c + d] := by
  have hcolon : ':' ∉ writeBytes [a, b, c, d] := notMem_writeBytes (by decide) (by decide) _
  have hpieces : Text.splitAll ':' (Text.writeHex part ++ ':' :: writeBytes [a, b, c, d]) =
      [Text.writeHex part, writeBytes [a, b, c, d]] := by
    have hjoined : Text.writeHex part ++ ':' :: writeBytes [a, b, c, d] =
        [':'].intercalate [Text.writeHex part, writeBytes [a, b, c, d]] := by
      rw [List.intercalate_cons_cons, List.intercalate_singleton, List.append_assoc]
      rfl
    rw [hjoined]
    refine Text.splitAll_intercalate (by simp) fun piece hpiece ↦ ?_
    rcases List.mem_pair.mp hpiece with rfl | rfl
    · exact notMem_writeHex (by decide) part
    · exact hcolon
  have hdot : (writeBytes [a, b, c, d]).contains '.' = true := by
    simp [writeBytes, List.intercalate_cons_cons]
  have hne : (Text.writeHex part ++ ':' :: writeBytes [a, b, c, d]).isEmpty = false := by
    simp
  have hfront : [Text.writeHex part].mapM readHex? = some [part] := by
    rw [List.mapM_cons, readHex?_writeHex hpart]
    rfl
  rw [readGroups?, hne, hpieces]
  simp only [List.getLast?_cons_cons, List.getLast?_singleton, Option.getD_some, hdot,
    List.dropLast_cons_cons, List.dropLast_singleton, hfront, readBytes?_writeBytes hbytes,
    Bool.false_eq_true, if_false, if_true, Option.bind_eq_bind, Option.bind_some]
  rfl

theorem readLong?_mapped {high low : Nat} (hhigh : high < 65536) (hlow : low < 65536) :
    readLong? ([':', ':'] ++ (Text.writeHex 0xFFFF
        ++ ':' :: writeBytes [high / 256, high % 256, low / 256, low % 256])) =
      some (.groups [0, 0, 0, 0, 0, 0xFFFF, high, low]) := by
  have hbytes : (bytes [high / 256, high % 256, low / 256, low % 256]).Proper := by
    refine ⟨rfl, ?_⟩
    simp only [List.forall_mem_cons, List.not_mem_nil, false_implies, implies_true, and_true]
    omega
  have hback := readGroups?_bytes (show 0xFFFF < 65536 by decide) hbytes
  rw [Nat.div_add_mod, Nat.div_add_mod] at hback
  rw [readLong?]
  simp only [List.cons_append, List.nil_append, splitGap, hback]
  rfl

theorem mapped?_eq_some {parts last : List Nat} (h : mapped? parts = some last) :
    ∃ high low, parts = [0, 0, 0, 0, 0, 0xFFFF, high, low]
      ∧ last = [high / 256, high % 256, low / 256, low % 256] := by
  rw [mapped?.eq_def] at h
  split at h
  · exact ⟨_, _, rfl, (Option.some.inj h).symm⟩
  · exact absurd h (by simp)

/-- What stands before the four bytes. -/
theorem toList_mappedStem : "::ffff:".toList = [':', ':'] ++ Text.writeHex 0xFFFF ++ [':'] := by
  decide +kernel

theorem readLong?_write {parts : List Nat} (h : (groups parts).Proper) :
    readLong? (write (.groups parts)).toList = some (.groups parts) := by
  rw [write]
  cases hmapped : mapped? parts with
  | some last =>
    obtain ⟨high, low, rfl, rfl⟩ := mapped?_eq_some hmapped
    simp only [String.toList_append, String.toList_ofList, toList_mappedStem]
    have hread := readLong?_mapped (h.2 high (by simp)) (h.2 low (by simp))
    simpa using hread
  | none =>
    have hrun := isZeroRun_longestRun parts
    generalize longestRun parts = run at hrun ⊢
    obtain ⟨start, length⟩ := run
    by_cases hlong : 2 ≤ length
    · have hwhole : parts.take start ++ List.replicate length 0 ++ parts.drop (start + length) =
          parts := append_replicate_append hrun
      have hlengths : (parts.take start).length + (parts.drop (start + length)).length + length =
          8 := by
        have hsum := congrArg List.length hwhole
        rw [List.length_append, List.length_append, List.length_replicate, h.1] at hsum
        omega
      have hread := readLong?_gap (fun part hpart ↦ h.2 part (List.mem_of_mem_take hpart))
        (fun part hpart ↦ h.2 part (List.mem_of_mem_drop hpart))
        (show (parts.take start).length + (parts.drop (start + length)).length < 8 by omega)
      have hmissing : 8 - ((parts.take start).length + (parts.drop (start + length)).length) =
          length := by omega
      rw [hmissing, hwhole] at hread
      simp only [if_pos hlong, String.toList_ofList]
      exact hread
    · simp only [if_neg hlong, String.toList_ofList]
      exact readLong?_writeGroups h

/-- The characters of a written address are digits and the marks between them. -/
theorem notMem_write {mark : Char} (hdigit : Text.isDigit mark = false)
    (hhex : Text.hexValue? mark = none) (hdot : mark ≠ '.') (hcolon : mark ≠ ':')
    (address : Address) : mark ∉ address.write.toList := by
  have hbytes := notMem_writeBytes hdigit hdot
  have hgroups := notMem_writeGroups hhex hcolon
  have hhigh : mark ∉ Text.writeHex 0xFFFF := notMem_writeHex hhex _
  cases address with
  | bytes parts =>
    rw [write, String.toList_ofList]
    exact hbytes parts
  | groups parts =>
    rw [write]
    cases mapped? parts with
    | some last => simp [toList_mappedStem, hcolon, hhigh, hbytes last]
    | none =>
      simp only [String.toList_ofList]
      split
      · simp [hcolon, hgroups]
      · exact hgroups parts

end Address

/-! ### Peers -/

/-- A peer by its address, the scope of the address if it has one, and its port. -/
structure Peer where
  address : Address
  scope? : Option Nat
  port : UInt16
  proper : address.Proper

namespace Peer

def scopeText : Option Nat → List Char
  | some scope => '%' :: Text.writeNat scope
  | none => []

/-- The peer as it is written; only a longer address stands in brackets, and only there can be a
scope. -/
def text (peer : Peer) : List Char :=
  match peer.address with
  | .bytes _ => peer.address.write.toList ++ ':' :: Text.writeNat peer.port.toNat
  | .groups _ =>
    '[' :: ((peer.address.write.toList ++ scopeText peer.scope?)
      ++ ']' :: ':' :: Text.writeNat peer.port.toNat)

theorem isPort_port (peer : Peer) : Address.isPort (Text.writeNat peer.port.toNat) = true := by
  rw [Address.isPort, Text.readNat?_writeNat, Option.any_some, decide_eq_true_eq]
  exact peer.port.toNat_lt

/-- The port and the scope make no difference to the address that is read. -/
theorem ofPeer?_text (peer : Peer) : Address.ofPeer? peer.text = some peer.address := by
  have hport := peer.isPort_port
  obtain ⟨address, scope?, port, proper⟩ := peer
  cases address with
  | bytes parts =>
    have hcolon : ':' ∉ Address.writeBytes parts :=
      Address.notMem_writeBytes (by decide) (by decide) parts
    have hsplit :
        Text.splitFirst ':' (Address.writeBytes parts ++ ':' :: Text.writeNat port.toNat) =
          some (Address.writeBytes parts, Text.writeNat port.toNat) :=
      Text.splitFirst_eq_some_iff.mpr ⟨rfl, hcolon⟩
    have hbracket : '[' ∉ Address.writeBytes parts ++ ':' :: Text.writeNat port.toNat := by
      rw [List.mem_append, List.mem_cons, not_or, not_or]
      exact ⟨Address.notMem_writeBytes (by decide) (by decide) parts, by decide,
        Address.notMem_writeNat (by decide) _⟩
    simp only [text, Address.write, String.toList_ofList]
    rw [Address.ofPeer?, hsplit]
    · simp [hport, Address.readBytes?_writeBytes proper]
    · intro rest heq
      exact hbracket (heq ▸ List.mem_cons_self)
  | groups parts =>
    have hpercent : '%' ∉ (Address.write (.groups parts)).toList :=
      Address.notMem_write (by decide) (by decide) (by decide) (by decide) _
    have hclosing : ']' ∉ (Address.write (.groups parts)).toList ++ scopeText scope? := by
      rw [List.mem_append, not_or]
      refine ⟨Address.notMem_write (by decide) (by decide) (by decide) (by decide) _, ?_⟩
      cases scope? with
      | none => exact List.not_mem_nil
      | some scope =>
        rw [scopeText, List.mem_cons, not_or]
        exact ⟨by decide, Address.notMem_writeNat (by decide) scope⟩
    have hscope : ((Address.write (.groups parts)).toList ++ scopeText scope?).takeWhile (· ≠ '%') =
        (Address.write (.groups parts)).toList := by
      rw [List.takeWhile_append_of_pos fun c hc ↦ by
        rw [decide_eq_true_eq]
        rintro rfl
        exact hpercent hc]
      cases scope? <;> simp [scopeText]
    have hsplit : Text.splitFirst ']' (((Address.write (.groups parts)).toList ++ scopeText scope?)
        ++ ']' :: ':' :: Text.writeNat port.toNat) =
        some ((Address.write (.groups parts)).toList ++ scopeText scope?,
          ':' :: Text.writeNat port.toNat) :=
      Text.splitFirst_eq_some_iff.mpr ⟨rfl, hclosing⟩
    simp only [text, Address.ofPeer?, hsplit, Option.bind_eq_bind, Option.bind_some,
      Text.getD_splitFirst, hscope, if_pos hport, Address.readLong?_write proper]

end Peer

end LoginThrottle
