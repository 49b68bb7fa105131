import Seph.Text.Blank
import Seph.Text.Utf8
import Seph.Bytes

/-!
# Console output

The firmware prints bytes. They are collected until a line is complete; what grows too long without
a newline is taken out as it is. Nothing is lost: the pieces taken out, as bytes, followed by what is
left are the bytes received.
-/

namespace Seph

/-- Bytes taken out of the console's buffer. -/
inductive ConsolePiece
  /-- A line, without its newline. -/
  | line (bs : Bytes)
  /-- Bytes without a newline. -/
  | part (bs : Bytes)
  deriving DecidableEq, Repr

namespace ConsolePiece

/-- The bytes of a piece as they were received. -/
def bytes : ConsolePiece → Bytes
  | line bs => bs ++ [0x0A]
  | part bs => bs

/-- The text of a piece. The blanks at the end of a line are left out. -/
def text : ConsolePiece → String
  | line bs => String.ofList (Text.trimEnd (Utf8.repair bs).toList)
  | part bs => Utf8.repair bs

end ConsolePiece

namespace Console

/-- What is not yet a line may not be as long as this. -/
def limit : Nat := 1024

/-- Takes the complete lines out of bytes; `before`, in reverse, are the bytes in front of them. -/
def lines (before : Bytes) : Bytes → List ConsolePiece × Bytes
  | [] => ([], before.reverse)
  | b :: bs =>
    if b = 0x0A then
      let (ls, rest) := lines [] bs
      (.line before.reverse :: ls, rest)
    else lines (b :: before) bs

/-- Adds bytes to a buffer and takes out what is complete or too long. -/
def push (buffer bs : Bytes) : List ConsolePiece × Bytes :=
  let (ls, rest) := lines [] (buffer ++ bs)
  if rest.length ≥ limit then (ls ++ [.part rest], []) else (ls, rest)

theorem bytes_lines (before bs : Bytes) :
    ((lines before bs).1.flatMap ConsolePiece.bytes) ++ (lines before bs).2 =
      before.reverse ++ bs := by
  induction bs generalizing before with
  | nil => simp [lines]
  | cons b bs ih =>
    by_cases h : b = 0x0A
    · simp only [lines, h, if_true, List.flatMap_cons, ConsolePiece.bytes, List.append_assoc]
      rw [ih []]
      simp
    · simp only [lines, h, if_false]
      rw [ih]
      simp

end Console
end Seph
