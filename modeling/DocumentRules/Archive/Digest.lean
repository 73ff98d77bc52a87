import DocumentRules.Text.Utf8

/-!
# BLAKE3 digests

An archived entry carries a checksum, and the digest of the text it was made from. Both are BLAKE3:
the input is cut into chunks of 1024 bytes, each chunk into blocks of 64, and the blocks of a chunk
are compressed one after the other. The results of the chunks are the leaves of a binary tree in
which neighbours are joined level by level, an odd one at the end moving up unchanged, and the
digest is read off the root.
-/

set_option autoImplicit false
set_option relaxedAutoImplicit false

namespace DocumentRules.Archive

open Text

/-- A list cut into pieces of a positive size; the last piece may be shorter. -/
def splitEvery {α : Type} (size : Nat) (hsize : 0 < size) (members : List α) : List (List α) :=
  match members with
  | [] => []
  | first :: rest => (first :: rest).take size :: splitEvery size hsize ((first :: rest).drop size)
termination_by members.length
decreasing_by
  simp only [List.length_drop, List.length_cons]
  omega

namespace Digest

/-- Sixteen words, the size of a block and of the state of a compression. -/
abbrev Words : Type := Vector UInt32 16

/-- Eight words, which carry the result of a compression. -/
abbrev Chaining : Type := Vector UInt32 8

/-- The words in which every chain starts. -/
def initialChaining : Chaining :=
  #v[0x6A09E667, 0xBB67AE85, 0x3C6EF372, 0xA54FF53A, 0x510E527F, 0x9B05688C, 0x1F83D9AB,
    0x5BE0CD19]

/-- Where each word of a message goes between two rounds. -/
def permutation : Vector (Fin 16) 16 := #v[2, 6, 3, 10, 7, 0, 4, 13, 1, 11, 12, 5, 9, 14, 15, 8]

/-- Flag of the first block of a chunk. -/
def chunkStart : UInt32 := 1

/-- Flag of the last block of a chunk. -/
def chunkEnd : UInt32 := 2

/-- Flag of an inner node of the tree. -/
def parentNode : UInt32 := 4

/-- Flag of the root of the tree. -/
def rootNode : UInt32 := 8

/-- A word turned to the right by some bits. -/
def rotateRight (word count : UInt32) : UInt32 := (word >>> count) ||| (word <<< (32 - count))

/-- Mixes two words of a message into four words of a state. -/
def mix (state : Words) (a b c d : Fin 16) (first second : UInt32) : Words :=
  let state := state.set a.val (state[a] + state[b] + first) a.isLt
  let state := state.set d.val (rotateRight (state[d] ^^^ state[a]) 16) d.isLt
  let state := state.set c.val (state[c] + state[d]) c.isLt
  let state := state.set b.val (rotateRight (state[b] ^^^ state[c]) 12) b.isLt
  let state := state.set a.val (state[a] + state[b] + second) a.isLt
  let state := state.set d.val (rotateRight (state[d] ^^^ state[a]) 8) d.isLt
  let state := state.set c.val (state[c] + state[d]) c.isLt
  state.set b.val (rotateRight (state[b] ^^^ state[c]) 7) b.isLt

/-- Mixes a message into a state once, by columns and then by diagonals. -/
def round (state message : Words) : Words :=
  let state := mix state 0 4 8 12 message[0] message[1]
  let state := mix state 1 5 9 13 message[2] message[3]
  let state := mix state 2 6 10 14 message[4] message[5]
  let state := mix state 3 7 11 15 message[6] message[7]
  let state := mix state 0 5 10 15 message[8] message[9]
  let state := mix state 1 6 11 12 message[10] message[11]
  let state := mix state 2 7 8 13 message[12] message[13]
  mix state 3 4 9 14 message[14] message[15]

/-- Mixes a message into a state some times, permuting the message in between. -/
def rounds : Nat → Words → Words → Words
  | 0, state, _ => state
  | 1, state, message => round state message
  | count + 2, state, message =>
    rounds (count + 1) (round state message) (permutation.map fun source ↦ message[source])

/-- What a node of the tree compresses: a message after a chain, with what it is for. -/
structure Node where
  chaining : Chaining
  message : Words
  counter : Nat
  length : Nat
  flags : UInt32

/-- The eight words that a node comes to, with some more flags. -/
def Node.compress (node : Node) (moreFlags : UInt32) : Chaining :=
  let low := UInt32.ofNat node.counter
  let high := UInt32.ofNat (node.counter / UInt32.size)
  let start := initialChaining
  let state : Words := node.chaining ++
    #v[start[0], start[1], start[2], start[3], low, high, UInt32.ofNat node.length,
      node.flags ||| moreFlags]
  let state := rounds 7 state node.message
  Vector.ofFn fun index : Fin 8 ↦
    let first : Fin 16 := ⟨index.val, by omega⟩
    let second : Fin 16 := ⟨index.val + 8, by omega⟩
    state[first] ^^^ state[second]

/-- The words of at most 64 bytes, four to a word, the least first, filled up with zeros. -/
def wordsOf (block : Bytes) : Words :=
  let padded := block.toArray
  let byte (index : Nat) : UInt32 := (padded.getD index 0).toUInt32
  Vector.ofFn fun index : Fin 16 ↦
    let first := 4 * index.val
    byte first ||| (byte (first + 1) <<< 8) ||| (byte (first + 2) <<< 16) |||
      (byte (first + 3) <<< 24)

/-- The four bytes of a word, the least first. -/
def bytesOf (word : UInt32) : Bytes :=
  [word.toUInt8, (word >>> 8).toUInt8, (word >>> 16).toUInt8, (word >>> 24).toUInt8]

/-- The node of the last of some blocks of a chunk, the ones before it compressed into a chain. -/
def chunkNode (counter : Nat) (chaining : Chaining) (flags : UInt32) : List Bytes → Node
  | [] => ⟨chaining, wordsOf [], counter, 0, flags ||| chunkEnd⟩
  | [last] => ⟨chaining, wordsOf last, counter, last.length, flags ||| chunkEnd⟩
  | block :: rest =>
    let node : Node := ⟨chaining, wordsOf block, counter, block.length, flags⟩
    chunkNode counter (node.compress 0) 0 rest

/-- The node of a chunk by its place among the chunks. -/
def leaf (counter : Nat) (chunk : Bytes) : Node :=
  chunkNode counter initialChaining chunkStart (splitEvery 64 (by decide) chunk)

/-- The node above two nodes. -/
def parent (left right : Node) : Node :=
  ⟨initialChaining, left.compress 0 ++ right.compress 0, 0, 64, parentNode⟩

/-- Joins neighbours; an odd node at the end is left as it is. -/
def joinNeighbours : List Node → List Node
  | left :: right :: rest => parent left right :: joinNeighbours rest
  | nodes => nodes

/-- The root above some nodes, at most `bound` levels up. -/
def rootAbove (first : Node) (rest : List Node) : Nat → Node
  | 0 => first
  | bound + 1 =>
    match joinNeighbours (first :: rest) with
    | next :: others => rootAbove next others bound
    | [] => first

/-- The root of the tree over some bytes. -/
def root (input : Bytes) : Node :=
  match (splitEvery 1024 (by decide) input).mapIdx leaf with
  | [] => leaf 0 []
  | first :: rest => rootAbove first rest rest.length

end Digest

/-- The BLAKE3 digest of some bytes: 32 bytes. -/
def digest (input : Bytes) : Bytes :=
  ((Digest.root input).compress Digest.rootNode).toList.flatMap Digest.bytesOf

end DocumentRules.Archive
