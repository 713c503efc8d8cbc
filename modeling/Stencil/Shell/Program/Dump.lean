import Stencil.Shell.Program.Arguments
import Stencil.Shell.Pattern

/-!
# Bytes in other notations

Programs that show bytes as numbers or in an alphabet of 64 signs.
-/

namespace Stencil.Shell.Program

/-! ## Numbers -/

structure DumpStyle where
  size : Nat
  width : Nat
  show' : Nat → Octets

namespace DumpStyle

def padded (width : Nat) (ds : Octets) : Octets :=
  List.replicate (width - ds.length) '0' ++ ds

def octal (size : Nat) : DumpStyle :=
  let digits := (8 * size + 2) / 3
  ⟨size, digits + 1, fun n => padded digits (Nat.toDigits 8 n)⟩

def hex (size : Nat) : DumpStyle :=
  ⟨size, 2 * size + 1, fun n => padded (2 * size) (Nat.toDigits 16 n)⟩

def unsigned (size : Nat) : DumpStyle :=
  ⟨size, (Octets.ofNat (Nat.pow 256 size - 1)).length + 1, Octets.ofNat⟩

def signed (size : Nat) : DumpStyle :=
  let limit := Nat.pow 256 size
  ⟨size, (Octets.ofNat (limit / 2)).length + 2, fun n =>
    Octets.ofInt (if n ≥ limit / 2 then (n : Int) - limit else n)⟩

def character : DumpStyle :=
  ⟨1, 4, fun n =>
    match n with
    | 0 => ['\\', '0']
    | 7 => ['\\', 'a']
    | 8 => ['\\', 'b']
    | 9 => ['\\', 't']
    | 10 => ['\\', 'n']
    | 11 => ['\\', 'v']
    | 12 => ['\\', 'f']
    | 13 => ['\\', 'r']
    | n => if 32 ≤ n && n < 127 then [Char.ofNat n] else padded 3 (Nat.toDigits 8 n)⟩

def named? (s : Octets) : Option DumpStyle :=
  match s with
  | ['c'] => some character
  | letter :: digits =>
    let size := if digits.isEmpty then some 4 else Octets.nat? digits
    size.bind fun size =>
      if !([1, 2, 4, 8].contains size) then none
      else
        match letter with
        | 'o' => some (octal size)
        | 'x' => some (hex size)
        | 'u' => some (unsigned size)
        | 'd' => some (signed size)
        | _ => none
  | [] => none

/-- Bytes in a style; the first byte of several counts least. `count` bounds their number. -/
def line (style : DumpStyle) : (count : Nat) → Octets → Octets
  | 0, _ => []
  | _, [] => []
  | count + 1, cs =>
    let n := (cs.take style.size).foldr (fun c n => n * 256 + c.toNat) 0
    let text := style.show' n
    List.replicate (style.width - text.length) ' ' ++ text ++ style.line count (cs.drop style.size)

end DumpStyle

def blocks (n : Nat) : (count : Nat) → Octets → List Octets
  | 0, _ => []
  | _, [] => []
  | count + 1, cs => cs.take n :: blocks n count (cs.drop n)

def od : Program := withOptions "od"
    { plain := "bcdoxvsi", valued := "tANjw",
      long := [("format", 't'), ("address-radix", 'A'), ("read-bytes", 'N'), ("skip-bytes", 'j')] } 1
    fun a => do
  let (texts, fine) ← readAll "od" a.operands plainly
  let text := texts.flatten
  let text := text.drop (((a.value? 'j').bind Octets.nat?).getD 0)
  let text := match (a.value? 'N').bind Octets.nat? with
    | some n => text.take n
    | none => text
  let style (o : Char × Octets) : Option DumpStyle :=
    match o.1 with
    | 't' => DumpStyle.named? o.2
    | 'b' => some (.octal 1)
    | 'c' => some .character
    | 'd' => some (.unsigned 2)
    | 'o' => some (.octal 2)
    | 'x' => some (.hex 2)
    | 's' => some (.signed 2)
    | 'i' => some (.signed 4)
    | _ => none
  let styles := a.options.filterMap style
  let styles := if styles.isEmpty then [.octal 2] else styles
  let address (n : Nat) : Octets :=
    match a.value? 'A' with
    | some ['n'] => []
    | some ['d'] => DumpStyle.padded 7 (Octets.ofNat n)
    | some ['x'] => DumpStyle.padded 6 (Nat.toDigits 16 n)
    | _ => DumpStyle.padded 7 (Nat.toDigits 8 n)
  let lines := (blocks 16 (text.length + 1) text).zipIdx
  let step (acc : Option Octets × Bool × List Octets) (block : Octets × Nat) :
      Option Octets × Bool × List Octets :=
    let (last, starred, out) := acc
    if last == some block.1 && block.1.length == 16 && !a.has 'v' then
      (last, true, if starred then out else ['*', '\n'] :: out)
    else
      let shown := styles.zipIdx.flatMap fun (style, i) =>
        let head := address (16 * block.2)
        (if i == 0 then head else head.map fun _ => ' ') ++ style.line 16 block.1 ++ ['\n']
      (some block.1, false, shown :: out)
  let (_, _, out) := lines.foldl step (none, false, [])
  let last := address text.length
  Act.print (out.reverse.flatten ++ (if last.isEmpty then [] else last ++ ['\n']))
  return .exited (if fine then 0 else 1)

/-! ## The alphabet of 64 signs -/

def alphabet : Octets :=
  "ABCDEFGHIJKLMNOPQRSTUVWXYZabcdefghijklmnopqrstuvwxyz0123456789+/".toList

def encodeGroup (cs : Octets) : Octets :=
  let value := (cs ++ List.replicate (3 - cs.length) '\x00').foldl (fun n c => n * 256 + c.toNat) 0
  let sign (i : Nat) : Char := alphabet[value / Nat.pow 64 (3 - i) % 64]?.getD '='
  (List.range (cs.length + 1)).map sign ++ List.replicate (3 - cs.length) '='

def decodeGroup (cs : Octets) : Option Octets := do
  let digits ← (cs.filter (· != '=')).mapM fun c => alphabet.findIdx? (· == c)
  if digits.length < 2 then none
  else
    let value := (digits ++ List.replicate (4 - digits.length) 0).foldl (fun n d => n * 64 + d) 0
    some (([value / 65536, value / 256 % 256, value % 256].map Char.ofNat).take (digits.length - 1))

def base64 : Program := withOptions "base64"
    { plain := "di", valued := "w",
      long := [("decode", 'd'), ("wrap", 'w'), ("ignore-garbage", 'i')] } 1 fun a => do
  let (texts, fine) ← readAll "base64" a.operands plainly
  let text := texts.flatten
  if a.has 'd' then
    let signs := text.filter fun c =>
      c != '\n' && (!a.has 'i' || alphabet.contains c || c == '=')
    let groups := (blocks 4 (signs.length + 1) signs).map decodeGroup
    Act.print ((groups.takeWhile (·.isSome)).filterMap id).flatten
    if groups.contains none || signs.length % 4 != 0 then
      complain "base64" "invalid input".toList
      return .exited 1
  else
    let signs := (blocks 3 (text.length + 1) text).flatMap encodeGroup
    let width := ((a.value? 'w').bind Octets.nat?).getD 76
    if width == 0 then Act.print signs
    else Act.print ((blocks width (signs.length + 1) signs).flatMap (· ++ ['\n']))
  return .exited (if fine then 0 else 1)

end Stencil.Shell.Program
