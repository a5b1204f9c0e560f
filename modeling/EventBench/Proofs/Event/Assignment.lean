import EventBench.Event.Basic

namespace EventBench.Event

variable {field : String}

end EventBench.Event
