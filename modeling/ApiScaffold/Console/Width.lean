import ApiScaffold.Console.WidthTable
import ApiScaffold.Text.Class

namespace ApiScaffold.Console

def charWidth (c : Char) : Nat :=
  if c.toNat < 127 then if c.toNat < 32 then 0 else 1
  else if Text.inRanges zeroWidthRanges c.toNat then 0
  else if Text.inRanges doubleWidthRanges c.toNat then 2
  else 1

def joiner : Char := '\u200d'

def selector : Char := '\ufe0f'

def widenedRanges : List (Nat × Nat) := [
  (0x23, 0x23), (0x2A, 0x2A), (0x30, 0x39), (0xA9, 0xA9), (0xAE, 0xAE), (0x203C, 0x203C), (0x2049, 0x2049),
  (0x2122, 0x2122), (0x2139, 0x2139), (0x2194, 0x2199), (0x21A9, 0x21AA), (0x2328, 0x2328),
  (0x23CF, 0x23CF), (0x23ED, 0x23EF), (0x23F1, 0x23F2), (0x23F8, 0x23FA), (0x24C2, 0x24C2),
  (0x25AA, 0x25AB), (0x25B6, 0x25B6), (0x25C0, 0x25C0), (0x25FB, 0x25FC), (0x2600, 0x2604),
  (0x260E, 0x260E), (0x2611, 0x2611), (0x2618, 0x2618), (0x261D, 0x261D), (0x2620, 0x2620),
  (0x2622, 0x2623), (0x2626, 0x2626), (0x262A, 0x262A), (0x262E, 0x262F), (0x2638, 0x263A),
  (0x2640, 0x2640), (0x2642, 0x2642), (0x265F, 0x2660), (0x2663, 0x2663), (0x2665, 0x2666),
  (0x2668, 0x2668), (0x267B, 0x267B), (0x267E, 0x267E), (0x2692, 0x2692), (0x2694, 0x2697),
  (0x2699, 0x2699), (0x269B, 0x269C), (0x26A0, 0x26A0), (0x26A7, 0x26A7), (0x26B0, 0x26B1),
  (0x26C8, 0x26C8), (0x26CF, 0x26CF), (0x26D1, 0x26D1), (0x26D3, 0x26D3), (0x26E9, 0x26E9),
  (0x26F0, 0x26F1), (0x26F4, 0x26F4), (0x26F7, 0x26F9), (0x2702, 0x2702), (0x2708, 0x2709),
  (0x270C, 0x270D), (0x270F, 0x270F), (0x2712, 0x2712), (0x2714, 0x2714), (0x2716, 0x2716),
  (0x271D, 0x271D), (0x2721, 0x2721), (0x2733, 0x2734), (0x2744, 0x2744), (0x2747, 0x2747),
  (0x2763, 0x2764), (0x27A1, 0x27A1), (0x2934, 0x2935), (0x2B05, 0x2B07)]

structure Cluster where
  chars : List Char
  width : Nat

def Cluster.push (k : Cluster) (c : Char) (extra : Nat) : Cluster := ⟨k.chars ++ [c], k.width + extra⟩

/--
The clusters from an open one on. Characters without a width join the cluster before them, and a
joiner takes the next character with it. `base` is the character that a selector would widen.
-/
def clustersFrom (current : Cluster) (base : Option Char) (joined : Bool) : List Char → List Cluster
  | [] => [current]
  | c :: rest =>
    if joined then clustersFrom (current.push c 0) base false rest
    else if c = joiner then clustersFrom (current.push c 0) base true rest
    else if c = selector then
      if base.any fun b => Text.inRanges widenedRanges b.toNat then
        clustersFrom (current.push c 1) none false rest
      else clustersFrom (current.push c 0) base false rest
    else if charWidth c = 0 then clustersFrom (current.push c 0) base false rest
    else current :: clustersFrom ⟨[c], charWidth c⟩ (some c) false rest

def clusters : List Char → List Cluster
  | [] => []
  | c :: rest => clustersFrom ⟨[c], charWidth c⟩ (if charWidth c = 0 then none else some c) false rest

def width (s : List Char) : Nat := (clusters s).foldl (fun columns k => columns + k.width) 0

def crop (columns : Nat) : List Cluster → List Char
  | [] => []
  | k :: rest =>
    if k.width ≤ columns then k.chars ++ crop (columns - k.width) rest else List.replicate columns ' '

def fit (columns : Nat) (s : List Char) : List Char :=
  if width s ≤ columns then s ++ List.replicate (columns - width s) ' ' else crop columns (clusters s)

def truncate (columns : Nat) (s : List Char) : List Char :=
  if width s ≤ columns then s else fit columns s

def truncateMarked (columns : Nat) (s : List Char) : List Char :=
  if width s ≤ columns then s else fit (columns - 1) s ++ ['…']

def chopFrom (columns size : Nat) (piece : List Char) : List Cluster → List (List Char)
  | [] => if size = 0 then [] else [piece]
  | k :: rest =>
    if columns < size + k.width then piece :: chopFrom columns k.width k.chars rest
    else chopFrom columns (size + k.width) (piece ++ k.chars) rest

def chop (columns : Nat) (s : List Char) : List (List Char) := chopFrom columns 0 [] (clusters s)

end ApiScaffold.Console
