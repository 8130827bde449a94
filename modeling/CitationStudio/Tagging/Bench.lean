import CitationStudio.Lab.Follower
import CitationStudio.Tagging.Session

/-! A tagging session with a lab that listens to its feed: whatever the session publishes, the
lab follows. -/

namespace CitationStudio.Tagging

structure Bench (σ : Type) where
  session : Session σ
  lab : Lab

namespace Bench

variable {σ : Type}

/-- A session whose feed a lab listens to from now on. -/
def new (session : Session σ) (lab : Lab) : Bench σ :=
  let follower := Lab.Follower.attach lab session.feed
  ⟨{ session with feed := follower.feed }, follower.lab⟩

/-- The bench after its session has become another one. -/
def advance (b : Bench σ) (session : Session σ) : Bench σ :=
  ⟨session, b.lab.catchUp session.feed b.session.feed.delivered.length⟩

end Bench

end CitationStudio.Tagging
