/-
# PromptTemplate.LazyList -- lists computed as far as they are looked at

A lazy list is finite; its tail is a function, so an element costs nothing until
something asks for it.  The view of a lazy list is the list of its elements
(`toList`), and each operation is the list operation of its name under that view.
-/
set_option autoImplicit false

namespace PromptTemplate

/-- A finite list whose tail is computed when it is asked for. -/
inductive LazyList (α : Type) where
  | nil
  | cons (head : α) (tail : Unit → LazyList α)

namespace LazyList

variable {α β : Type}

def toList : LazyList α → List α
  | nil => []
  | cons a tail => a :: (tail ()).toList

def ofList : List α → LazyList α
  | [] => nil
  | a :: rest => cons a fun _ => ofList rest

def singleton (a : α) : LazyList α :=
  cons a fun _ => nil

def append (xs : LazyList α) (ys : Unit → LazyList α) : LazyList α :=
  match xs with
  | nil => ys ()
  | cons a tail => cons a fun _ => (tail ()).append ys

def map (f : α → β) : LazyList α → LazyList β
  | nil => nil
  | cons a tail => cons (f a) fun _ => (tail ()).map f

def flatMap (f : α → LazyList β) : LazyList α → LazyList β
  | nil => nil
  | cons a tail => (f a).append fun _ => (tail ()).flatMap f

/-- The first elements, at most so many; nothing behind them is computed. -/
def take : Nat → LazyList α → List α
  | 0, _ => []
  | _ + 1, nil => []
  | 1, cons a _ => [a]
  | n + 2, cons a tail => a :: take (n + 1) (tail ())

def head? : LazyList α → Option α
  | nil => none
  | cons a _ => some a

/-! ## Results -/

variable {ε : Type}

/-- The results of a list up to its first error, or that error. -/
def collect : LazyList (Except ε α) → Except ε (List α)
  | nil => .ok []
  | cons (.error e) _ => .error e
  | cons (.ok a) tail => (tail ()).collect.map (a :: ·)

/-- The list without the values that have come before, or are among those seen; errors
stay. -/
def distinctFrom [BEq α] (seen : List α) : LazyList (Except ε α) → LazyList (Except ε α)
  | nil => nil
  | cons (.error e) tail => cons (.error e) fun _ => (tail ()).distinctFrom seen
  | cons (.ok a) tail =>
    if seen.contains a then (tail ()).distinctFrom seen
    else cons (.ok a) fun _ => (tail ()).distinctFrom (a :: seen)

/-- The list without the values that have come before; errors stay. -/
def distinct [BEq α] (xs : LazyList (Except ε α)) : LazyList (Except ε α) :=
  xs.distinctFrom []

/-- The first values, at most so many, unless an error comes before them; nothing behind
them is computed. -/
def takeOk : Nat → LazyList (Except ε α) → Except ε (List α)
  | 0, _ => .ok []
  | _ + 1, nil => .ok []
  | _ + 1, cons (.error e) _ => .error e
  | 1, cons (.ok a) _ => .ok [a]
  | n + 2, cons (.ok a) tail => (takeOk (n + 1) (tail ())).map (a :: ·)

/-! ## The view -/

@[simp] theorem toList_nil : (nil : LazyList α).toList = [] := rfl

@[simp] theorem toList_cons (a : α) (tail : Unit → LazyList α) :
    (cons a tail).toList = a :: (tail ()).toList := rfl

@[simp] theorem toList_ofList (xs : List α) : (ofList xs).toList = xs := by
  induction xs with
  | nil => rfl
  | cons a rest ih => simp [ofList, ih]

@[simp] theorem toList_singleton (a : α) : (singleton a).toList = [a] := rfl

@[simp] theorem toList_append (xs : LazyList α) (ys : Unit → LazyList α) :
    (xs.append ys).toList = xs.toList ++ (ys ()).toList := by
  induction xs with
  | nil => rfl
  | cons a tail ih => simp [append, ih]

@[simp] theorem toList_map (f : α → β) (xs : LazyList α) :
    (xs.map f).toList = xs.toList.map f := by
  induction xs with
  | nil => rfl
  | cons a tail ih => simp [map, ih]

@[simp] theorem toList_flatMap (f : α → LazyList β) (xs : LazyList α) :
    (xs.flatMap f).toList = xs.toList.flatMap fun a => (f a).toList := by
  induction xs with
  | nil => rfl
  | cons a tail ih => simp [flatMap, ih]

theorem take_eq_take_toList (n : Nat) (xs : LazyList α) : xs.take n = xs.toList.take n := by
  fun_induction take n xs with
  | case1 => simp
  | case2 => simp
  | case3 => simp
  | case4 n a tail ih => simp [ih]

theorem head?_eq_head?_toList (xs : LazyList α) : xs.head? = xs.toList.head? := by
  cases xs <;> rfl

end LazyList

end PromptTemplate
