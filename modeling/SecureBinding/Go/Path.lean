import SecureBinding.Go.Strings

/-!
# Go.Path

The lexical functions of `path/filepath` on Unix: a path is a string, and its elements are
what stands between the slashes.
-/

namespace SecureBinding.Go.Path

def slash : UInt8 := 0x2f

def dot : GoString := [0x2e]

def dotDot : GoString := [0x2e, 0x2e]

def isAbs (path : GoString) : Bool := path.head? == some slash

/-- The elements of a cleaned path, the last one first, after one more element. -/
def cleanElement (rooted : Bool) (out : List GoString) (element : GoString) : List GoString :=
  if element = [] ∨ element = dot then out
  else if element = dotDot then
    match out with
    | [] => if rooted then [] else [dotDot]
    | last :: rest => if last = dotDot then dotDot :: out else rest
  else element :: out

def cleanElements (path : GoString) : List GoString :=
  ((split slash path).foldl (cleanElement (isAbs path)) []).reverse

def joinElements (elements : List GoString) : GoString := [slash].intercalate elements

def clean (path : GoString) : GoString :=
  if isAbs path then slash :: joinElements (cleanElements path)
  else if cleanElements path = [] then dot
  else joinElements (cleanElements path)

def base (path : GoString) : GoString :=
  if path = [] then dot
  else
    let stripped := (path.reverse.dropWhile (· == slash)).reverse
    if stripped = [] then [slash] else (split slash stripped).getLastD []

/-- `filepath.Dir`: what stands before the last element, cleaned. -/
def dir (path : GoString) : GoString := clean (path.reverse.dropWhile (· != slash)).reverse

/-- `filepath.Join`. -/
def joinAll (elem : List GoString) : GoString :=
  let elem := elem.dropWhile (· == [])
  if elem = [] then [] else clean (joinElements elem)

/-- `filepath.Join` of two elements. -/
def join (a b : GoString) : GoString :=
  if a = [] then if b = [] then [] else clean b
  else clean (a ++ slash :: b)

/-- `filepath.Abs`, in this working directory. -/
def abs (getwd : Except GoString GoString) (path : GoString) : Except GoString GoString :=
  if isAbs path then .ok (clean path) else getwd.map (join · path)

/-- What is left of two lists after the elements they have in common. -/
def dropCommon : List GoString → List GoString → List GoString × List GoString
  | a :: as, b :: bs => if a = b then dropCommon as bs else (a :: as, b :: bs)
  | as, bs => (as, bs)

/-- The elements of a path that has been cleaned. -/
def elements (path : GoString) : List GoString := (split slash path).filter (· ≠ [])

def rel (basepath targpath : GoString) : Except GoString GoString :=
  let base := clean basepath
  let targ := clean targpath
  if targ = base then .ok dot
  else
    let base := if base = dot then [] else base
    let err := lit "Rel: can't make " ++ targpath ++ lit " relative to " ++ basepath
    if isAbs base ≠ isAbs targ then .error err
    else
      match dropCommon (elements base) (elements targ) with
      | ([], rest) => .ok (joinElements rest)
      | (up :: ups, rest) =>
        if up = dotDot then .error err
        else .ok (joinElements ((up :: ups).map (fun _ => dotDot) ++ rest))

end SecureBinding.Go.Path
